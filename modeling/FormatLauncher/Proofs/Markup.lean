/-
# What markup makes of text

Markup takes a tag for a style, unless an odd backslash stands before it, and takes away a backslash
before any other bracket.  All other text is left as it is.  A text whose first tag closes a style
cannot be read.  Escaping a text leaves none of its tags to be taken for a style, whatever follows.
-/

import FormatLauncher.Console.Markup
import FormatLauncher.Proofs.Action
import Mathlib.Data.List.TakeWhile

namespace FormatLauncher.Console.Markup

/-! ## Tags -/

/-- A character that is no bracket. -/
def isInside (c : Char) : Bool := c ≠ ']' && c ≠ '['

/-- What may stand between the brackets of a tag. -/
def IsBody (body : List Char) : Prop :=
  ∃ c rest, body = c :: rest ∧ startsTag c = true ∧ ∀ d ∈ rest, isInside d = true

theorem tagAt?_cons (c : Char) (rest : List Char) :
    tagAt? ('[' :: c :: rest) =
      if startsTag c then
        match rest.dropWhile isInside with
        | ']' :: after => some (c :: rest.takeWhile isInside, after)
        | _ => none
      else none := rfl

/-- A text starts with a tag if a body in brackets comes first. -/
theorem tagAt?_eq_some_iff {text body after : List Char} :
    tagAt? text = some (body, after) ↔ text = bracketed body ++ after ∧ IsBody body := by
  constructor
  · intro h
    rcases text with _ | ⟨first, _ | ⟨c, rest⟩⟩
    · cases h
    · simp [tagAt?] at h
    · obtain rfl : first = '[' := by
        by_contra hfirst
        simp [tagAt?, hfirst] at h
      rw [tagAt?_cons] at h
      split at h
      · next hstarts =>
          split at h
          · next _ hdrop =>
              obtain ⟨rfl, rfl⟩ := Prod.mk.inj (Option.some.inj h)
              have hrest := List.takeWhile_append_dropWhile (l := rest) (p := isInside)
              rw [hdrop] at hrest
              refine ⟨?_, c, _, rfl, hstarts, fun d hd => List.mem_takeWhile_imp hd⟩
              simp [bracketed, hrest]
          · cases h
      · cases h
  · rintro ⟨rfl, c, rest, rfl, hstarts, hrest⟩
    have htake : (rest ++ ']' :: after).takeWhile isInside =
        rest ++ (']' :: after).takeWhile isInside := List.takeWhile_append_of_pos hrest
    have hdrop : (rest ++ ']' :: after).dropWhile isInside =
        (']' :: after).dropWhile isInside := List.dropWhile_append_of_pos hrest
    have htext : bracketed (c :: rest) ++ after = '[' :: c :: (rest ++ ']' :: after) := by
      simp [bracketed]
    rw [htext, tagAt?_cons, if_pos hstarts, hdrop, htake]
    simp [isInside]

theorem markedTag?_eq_some_iff {text body after : List Char} {count : Nat} :
    markedTag? text = some (count, body, after) ↔
      text = List.replicate count '\\' ++ (bracketed body ++ after) ∧ IsBody body := by
  simp only [markedTag?, Option.map_eq_some_iff, Prod.mk.injEq, Prod.exists]
  constructor
  · rintro ⟨_, _, htag, hcount, rfl, rfl⟩
    obtain ⟨htext, hbody⟩ := tagAt?_eq_some_iff.mp htag
    refine ⟨?_, hbody⟩
    have hslashes : text.takeWhile (· = '\\') = List.replicate count '\\' :=
      List.eq_replicate_iff.mpr ⟨hcount, fun c hc => by simpa using List.mem_takeWhile_imp hc⟩
    rw [← htext, hcount, ← hslashes, ← hcount]
    exact (List.prefix_iff_eq_append.mp (List.takeWhile_prefix _)).symm
  · rintro ⟨rfl, hbody⟩
    have htake : (List.replicate count '\\' ++ (bracketed body ++ after)).takeWhile (· = '\\') =
        List.replicate count '\\' := by
      rw [List.takeWhile_append_of_pos (by simp)]
      simp [bracketed]
    refine ⟨body, after, ?_, by rw [htake]; simp, rfl, rfl⟩
    rw [htake]
    simp [tagAt?_eq_some_iff, hbody]

/-- Somewhere in the text stands a tag. -/
def HoldsTag (text : List Char) : Prop := ∃ body, IsBody body ∧ bracketed body <:+: text

/-- There is nothing in the text that markup would take for more than text: no tag, and no backslash
before a bracket. -/
def IsPlain (text : List Char) : Prop := ¬HoldsTag text ∧ ¬['\\', '['] <:+: text

theorem holdsTag_of_markedTag? {text body after : List Char} {count : Nat}
    (h : markedTag? text = some (count, body, after)) : HoldsTag text := by
  obtain ⟨rfl, hbody⟩ := markedTag?_eq_some_iff.mp h
  exact ⟨body, hbody, List.infix_append' _ _ _⟩

/-- A tag stands in a text at its start or later on. -/
theorem holdsTag_cons_iff {c : Char} {rest : List Char} (hnone : markedTag? (c :: rest) = none) :
    HoldsTag (c :: rest) ↔ HoldsTag rest := by
  refine ⟨fun ⟨body, hbody, hwithin⟩ => ⟨body, hbody, ?_⟩,
    fun ⟨body, hbody, hwithin⟩ => ⟨body, hbody, List.infix_cons hwithin⟩⟩
  refine (List.infix_cons_iff.mp hwithin).resolve_left fun ⟨after, htext⟩ => ?_
  have hmarked : markedTag? (c :: rest) = some (0, body, after) :=
    markedTag?_eq_some_iff.mpr ⟨htext.symm, hbody⟩
  cases hnone.symm.trans hmarked

/-! ## What is left of a text -/

/-- What is shown of a piece, but for the pictures of emoji. -/
def Piece.bare : Piece → List Char
  | .raw text => showRaw text
  | .literal text => text
  | .tag _ _ => []

/-- The body of a tag. -/
def Piece.body? : Piece → Option (List Char)
  | .tag body _ => some body
  | _ => none

/-- What markup leaves of a text. -/
def bare (text : List Char) : List Char := (pieces 0 text).flatMap Piece.bare

/-- The tags of a text that are no plain text. -/
def tags (text : List Char) : List (List Char) := (pieces 0 text).filterMap Piece.body?

theorem flatMap_bare_tagPieces (count : Nat) (body : List Char) (position : Nat) :
    (tagPieces count body position).flatMap Piece.bare =
      List.replicate (count / 2) '\\' ++ if count % 2 = 1 then bracketed body else [] := by
  unfold tagPieces
  split
  · next hfew =>
      have hhalf : count / 2 = 0 := by omega
      split <;> simp [Piece.bare, hhalf]
  · split <;> simp [Piece.bare]

theorem filterMap_body?_tagPieces (count : Nat) (body : List Char) (position : Nat) :
    (tagPieces count body position).filterMap Piece.body? =
      if count % 2 = 1 then [] else [body] := by
  unfold tagPieces
  split <;> split <;> simp [Piece.body?, List.filterMap_cons]

theorem filterMap_body?_consRaw (c : Char) (ps : List Piece) :
    (consRaw c ps).filterMap Piece.body? = ps.filterMap Piece.body? := by
  unfold consRaw
  split <;> simp [Piece.body?, List.filterMap_cons]

theorem pieces_of_tag {text body after : List Char} {count : Nat}
    (h : markedTag? text = some (count, body, after)) (position : Nat) :
    pieces position text = tagPieces count body position ++
      pieces (position + (text.length - after.length)) after := by
  cases text with
  | nil => cases h
  | cons c rest =>
      rw [pieces]
      split
      · next h' =>
          obtain ⟨rfl, rfl, rfl⟩ : _ ∧ _ ∧ _ := by simpa [h] using h'
          rfl
      · next h' => cases h.symm.trans h'

theorem pieces_of_none {c : Char} {rest : List Char} (h : markedTag? (c :: rest) = none)
    (position : Nat) :
    pieces position (c :: rest) = consRaw c (pieces (position + 1) rest) := by
  rw [pieces]
  split
  · next h' => cases h.symm.trans h'
  · rfl

/-- A piece at no place in particular. -/
def Piece.unplaced : Piece → Piece
  | .tag body _ => .tag body 0
  | piece => piece

/-- Where a text stands makes no difference to its pieces, but for the places of its tags. -/
theorem map_unplaced_pieces (text : List Char) (position other : Nat) :
    (pieces position text).map Piece.unplaced = (pieces other text).map Piece.unplaced := by
  -- Escaping takes a text apart as this does but has no use for a place, so the induction is on it.
  induction text using escapeTags.induct generalizing position other with
  | case1 => simp [pieces]
  | case2 c rest count body after htag ih =>
      have htags : (tagPieces count body position).map Piece.unplaced =
          (tagPieces count body other).map Piece.unplaced := by
        unfold tagPieces
        split <;> split <;> simp [Piece.unplaced]
      rw [pieces_of_tag htag, pieces_of_tag htag, List.map_append, List.map_append, htags, ih]
  | case3 c rest hnone ih =>
      have hcons (ps : List Piece) :
          (consRaw c ps).map Piece.unplaced = consRaw c (ps.map Piece.unplaced) := by
        rcases ps with _ | ⟨_ | _ | _, _⟩ <;> rfl
      rw [pieces_of_none hnone, pieces_of_none hnone, hcons, hcons, ih]

theorem eq_of_unplaced {β : Type} {g : List Piece → β}
    (hg : ∀ ps, g (ps.map Piece.unplaced) = g ps) (position : Nat) (text : List Char) :
    g (pieces position text) = g (pieces 0 text) := by
  rw [← hg, map_unplaced_pieces text position 0, hg]

theorem flatMap_bare_pieces (position : Nat) (text : List Char) :
    (pieces position text).flatMap Piece.bare = bare text := by
  refine eq_of_unplaced (g := (·.flatMap Piece.bare)) (fun ps => ?_) position text
  rw [List.flatMap_map]
  exact congrArg (ps.flatMap ·) (funext fun piece => by cases piece <;> rfl)

theorem filterMap_body?_pieces (position : Nat) (text : List Char) :
    (pieces position text).filterMap Piece.body? = tags text := by
  refine eq_of_unplaced (g := (·.filterMap Piece.body?)) (fun ps => ?_) position text
  rw [List.filterMap_map]
  exact congrArg (ps.filterMap ·) (funext fun piece => by cases piece <;> rfl)

/-! ### One step -/

theorem tags_of_tag {text body after : List Char} {count : Nat}
    (h : markedTag? text = some (count, body, after)) :
    tags text = (if count % 2 = 1 then [] else [body]) ++ tags after := by
  rw [tags, pieces_of_tag h, List.filterMap_append, filterMap_body?_tagPieces,
    filterMap_body?_pieces]

theorem tags_of_none {c : Char} {rest : List Char} (h : markedTag? (c :: rest) = none) :
    tags (c :: rest) = tags rest := by
  rw [tags, pieces_of_none h, filterMap_body?_consRaw, filterMap_body?_pieces]

theorem bare_of_tag {text body after : List Char} {count : Nat}
    (h : markedTag? text = some (count, body, after)) :
    bare text = List.replicate (count / 2) '\\' ++
      (if count % 2 = 1 then bracketed body else []) ++ bare after := by
  rw [bare, pieces_of_tag h, List.flatMap_append, flatMap_bare_tagPieces, flatMap_bare_pieces]

theorem exists_consRaw (c : Char) (ps : List Piece) :
    ∃ raw more, consRaw c ps = .raw (c :: raw) :: more := by
  unfold consRaw
  split <;> exact ⟨_, _, rfl⟩

/-- A text that starts with raw text starts as that does. -/
theorem head?_of_pieces {position : Nat} {text raw : List Char} {more : List Piece}
    (h : pieces position text = .raw raw :: more) : raw.head? = text.head? := by
  cases text with
  | nil => simp [pieces] at h
  | cons c rest =>
      cases hmarked : markedTag? (c :: rest) with
      | none =>
          obtain ⟨later, last, hraw⟩ := exists_consRaw c (pieces (position + 1) rest)
          rw [pieces_of_none hmarked, hraw] at h
          obtain ⟨rfl, -⟩ : c :: later = raw ∧ last = more := by simpa using h
          rfl
      | some marked =>
          rcases marked with ⟨count, body, after⟩
          rw [pieces_of_tag hmarked, tagPieces] at h
          split at h <;> split at h <;> simp at h

theorem showRaw_cons (c : Char) (text : List Char) :
    showRaw (c :: text) =
      if c = '\\' ∧ text.head? = some '[' then showRaw text else c :: showRaw text := by
  rcases text with _ | ⟨d, rest⟩
  · simp [showRaw]
  · by_cases hescapes : c = '\\' ∧ d = '['
    · obtain ⟨rfl, rfl⟩ := hescapes
      simp [showRaw]
    · rw [showRaw]
      · simp [hescapes]
      · rintro _ rfl heq
        simp_all

/-- A backslash before what is no tag makes no tag. -/
theorem markedTag?_slash (text : List Char) :
    markedTag? ('\\' :: text) =
      (markedTag? text).map fun (count, body, after) => (count + 1, body, after) := by
  simp [markedTag?, Function.comp_def]

/-- A bracket that starts no tag starts raw text. -/
theorem exists_pieces_eq_raw {rest : List Char} (h : markedTag? rest = none)
    (hrest : rest.head? = some '[') (position : Nat) :
    ∃ raw more, pieces position rest = .raw raw :: more := by
  obtain ⟨rest, rfl⟩ := List.head?_eq_some_iff.mp hrest
  obtain ⟨raw, more, hraw⟩ := exists_consRaw '[' (pieces (position + 1) rest)
  exact ⟨_, more, (pieces_of_none h position).trans hraw⟩

theorem bare_of_none {c : Char} {rest : List Char} (h : markedTag? (c :: rest) = none) :
    bare (c :: rest) = if c = '\\' ∧ rest.head? = some '[' then bare rest else c :: bare rest := by
  rw [bare, pieces_of_none h, ← flatMap_bare_pieces 1 rest]
  by_cases hescapes : c = '\\' ∧ rest.head? = some '['
  · obtain ⟨rfl, hrest⟩ := hescapes
    rw [markedTag?_slash, Option.map_eq_none_iff] at h
    obtain ⟨raw, more, hpieces⟩ := exists_pieces_eq_raw h hrest 1
    simp [hpieces, consRaw, Piece.bare, showRaw_cons, head?_of_pieces hpieces, hrest]
  · cases hpieces : pieces 1 rest with
    | nil => simp [consRaw, Piece.bare, hescapes, showRaw]
    | cons first more =>
        cases first with
        | raw raw =>
            simp [consRaw, Piece.bare, showRaw_cons, head?_of_pieces hpieces, hescapes]
        | literal text => simp [consRaw, Piece.bare, hescapes, showRaw]
        | tag body position => simp [consRaw, Piece.bare, hescapes, showRaw]

/-! ## What is shown as it is -/

@[simp]
theorem bare_nil : bare [] = [] := by simp [bare, pieces]

@[simp]
theorem tags_nil : tags [] = [] := by simp [tags, pieces]

theorem length_eq_of_markedTag? {text body after : List Char} {count : Nat}
    (h : markedTag? text = some (count, body, after)) :
    text.length = count + (body.length + 2) + after.length := by
  rw [(markedTag?_eq_some_iff.mp h).1]
  simp only [bracketed, List.length_append, List.length_replicate, List.length_cons,
    List.length_nil]
  omega

/-- Markup makes no text longer. -/
theorem length_bare_le (text : List Char) : (bare text).length ≤ text.length := by
  induction text using escapeTags.induct with
  | case1 => simp
  | case2 c rest count body after htag ih =>
      rw [bare_of_tag htag, length_eq_of_markedTag? htag]
      split <;> simp [bracketed] <;> omega
  | case3 c rest hnone ih =>
      rw [bare_of_none hnone]
      split <;> simp <;> omega

/-- A tag at the start, with its backslashes, is not left as it is. -/
theorem length_bare_lt_of_tag {text body after : List Char} {count : Nat}
    (h : markedTag? text = some (count, body, after)) : (bare text).length < text.length := by
  have hafter := length_bare_le after
  rw [bare_of_tag h, length_eq_of_markedTag? h]
  split <;> simp [bracketed] <;> omega

theorem isPlain_cons_iff {c : Char} {rest : List Char} (hnone : markedTag? (c :: rest) = none) :
    IsPlain (c :: rest) ↔ ¬(c = '\\' ∧ rest.head? = some '[') ∧ IsPlain rest := by
  have hfirst : ['\\', '['] <+: c :: rest ↔ c = '\\' ∧ rest.head? = some '[' := by
    cases rest <;> simp [eq_comm]
  rw [IsPlain, IsPlain, holdsTag_cons_iff hnone, List.infix_cons_iff, hfirst, not_or]
  exact and_left_comm

/-- Markup leaves a text as it is exactly if there is nothing in it that markup would take for more
than text. -/
theorem bare_eq_self_iff {text : List Char} : bare text = text ↔ IsPlain text := by
  induction text using escapeTags.induct with
  | case1 => simp [IsPlain, HoldsTag, bracketed]
  | case2 c rest count body after htag ih =>
      have hshorter := length_bare_lt_of_tag htag
      exact iff_of_false (fun hsame => by rw [hsame] at hshorter; omega)
        fun hplain => hplain.1 (holdsTag_of_markedTag? htag)
  | case3 c rest hnone ih =>
      have hshorter := length_bare_le rest
      rw [bare_of_none hnone, isPlain_cons_iff hnone]
      split
      · next hescapes =>
          refine iff_of_false (fun hsame => ?_) fun hplain => hplain.1 hescapes
          rw [hsame, List.length_cons] at hshorter
          omega
      · next hescapes => simp [hescapes, ih]

/-! ## What can be read as markup -/

/-- The text of pieces without tags, with the pictures of emoji. -/
def pictured (ps : List Piece) : List Char := ps.flatMap fun piece => Emoji.replace piece.bare

/-- Pieces without tags are shown in front of what follows, whatever styles are open. -/
theorem renderPieces_append {front : List Piece} (hfront : front.filterMap Piece.body? = [])
    (opened : List Opened) (rest : List Piece) :
    renderPieces opened (front ++ rest) =
      (renderPieces opened rest).map (pictured front ++ ·) := by
  have hmap (first second : List Char) (result : Except Failure (List Char)) :
      (result.map (second ++ ·)).map (first ++ ·) = result.map ((first ++ second) ++ ·) := by
    cases result <;> simp [Except.map]
  induction front with
  | nil => cases hrest : renderPieces opened rest <;> simp [pictured, Except.map, hrest]
  | cons piece front ih =>
      cases piece with
      | raw text =>
          have hrest : front.filterMap Piece.body? = [] := by simpa [Piece.body?] using hfront
          rw [List.cons_append, renderPieces, ih hrest, hmap]
          rfl
      | literal text =>
          have hrest : front.filterMap Piece.body? = [] := by simpa [Piece.body?] using hfront
          rw [List.cons_append, renderPieces, ih hrest, hmap]
          rfl
      | tag body position => simp [Piece.body?] at hfront

/-- Pieces whose first tag has some body are pieces without tags, and the tag, and the rest. -/
theorem exists_of_filterMap_body? {ps : List Piece} {body : List Char} {more : List (List Char)}
    (h : ps.filterMap Piece.body? = body :: more) :
    ∃ front position rest, ps = front ++ .tag body position :: rest ∧
      front.filterMap Piece.body? = [] ∧ rest.filterMap Piece.body? = more := by
  obtain ⟨front, piece, rest, rfl, hfront, hpiece, hrest⟩ := List.filterMap_eq_cons_iff.mp h
  cases piece with
  | raw text => cases hpiece
  | literal text => cases hpiece
  | tag body' position =>
      obtain rfl : body' = body := Option.some.inj hpiece
      exact ⟨front, position, rest, rfl, List.filterMap_eq_nil_iff.mpr hfront, hrest⟩

/-- A text that holds no tag is raw text. -/
theorem pieces_of_not_holdsTag {text : List Char} (h : ¬HoldsTag text) (hne : text ≠ [])
    (position : Nat) : pieces position text = [.raw text] := by
  induction text generalizing position with
  | nil => exact absurd rfl hne
  | cons c rest ih =>
      have hnone : markedTag? (c :: rest) = none := by
        cases hmarked : markedTag? (c :: rest) with
        | none => rfl
        | some marked => exact absurd (holdsTag_of_markedTag? hmarked) h
      rw [pieces_of_none hnone]
      by_cases hrest : rest = []
      · subst hrest
        simp [pieces, consRaw]
      · rw [ih (mt (holdsTag_cons_iff hnone).mpr h) hrest]
        rfl

theorem tags_of_not_holdsTag {text : List Char} (h : ¬HoldsTag text) : tags text = [] := by
  by_cases hempty : text = []
  · simp [hempty]
  · simp [tags, pieces_of_not_holdsTag h hempty, Piece.body?]

theorem renderPieces_of_untagged {ps : List Piece} (h : ps.filterMap Piece.body? = [])
    (opened : List Opened) : renderPieces opened ps = .ok (pictured ps) := by
  have happend := renderPieces_append h opened []
  simpa [renderPieces, Except.map] using happend

theorem pictured_of_isPlain {text : List Char} (h : IsPlain text) :
    pictured (pieces 0 text) = Emoji.replace text := by
  by_cases hempty : text = []
  · subst hempty
    simp [pieces, pictured]
    rfl
  · have hpieces := pieces_of_not_holdsTag h.1 hempty 0
    have hbare : showRaw text = text := by
      simpa [bare, hpieces, Piece.bare] using bare_eq_self_iff.mpr h
    simp [hpieces, pictured, Piece.bare, hbare]

/-- What is shown of a text that can be read as markup. -/
def shown (text : List Char) : List Char := (pictured (pieces 0 text)).filter fun c => !isDropped c

theorem shown_of_isPlain {text : List Char} (h : IsPlain text) :
    shown text = (Emoji.replace text).filter fun c => !isDropped c := by
  rw [shown, pictured_of_isPlain h]

/-- Text without brackets is markup like any other. -/
theorem render_eq (text : String) :
    render text = (renderPieces [] (pieces 0 text.toList)).map fun chars =>
      chars.filter fun c => !isDropped c := by
  unfold render
  by_cases hbracket : '[' ∈ text.toList
  · simp [hbracket]
  · have hplain : IsPlain text.toList := by
      refine ⟨fun ⟨body, _, hwithin⟩ => hbracket (hwithin.subset (by simp [bracketed])),
        fun hwithin => hbracket (hwithin.subset (by simp))⟩
    have hpieces := renderPieces_of_untagged (tags_of_not_holdsTag hplain.1) []
    rw [hpieces, pictured_of_isPlain hplain]
    simp [hbracket]

/-- A tag is an error, or it changes which styles are open. -/
theorem renderPieces_tag (opened : List Opened) (body : List Char) (position : Nat)
    (rest : List Piece) :
    (∃ failure, renderPieces opened (.tag body position :: rest) = .error failure) ∨
      ∃ later, renderPieces opened (.tag body position :: rest) = renderPieces later rest := by
  have hclose (name : String) {result : Except Failure (List Char)}
      (hnone : close? name opened = none → ∃ failure, result = .error failure)
      (hsome : ∀ style later, close? name opened = some (style, later) →
        result = style.check.bind fun _ => renderPieces later rest) :
      (∃ failure, result = .error failure) ∨ ∃ later, result = renderPieces later rest := by
    cases hclosed : close? name opened with
    | none => exact .inl (hnone hclosed)
    | some closed =>
        rw [hsome _ _ hclosed]
        cases closed.1.check with
        | error failure => exact .inl ⟨failure, rfl⟩
        | ok _ => exact .inr ⟨closed.2, rfl⟩
  rw [renderPieces]
  split
  · dsimp only
    split
    · rw [pure_bind]
      exact hclose "" (fun h => ⟨_, by rw [h]; rfl⟩) fun _ _ h => by rw [h]; rfl
    · next name _ _ _ =>
        cases Style.normalName (Text.trim (String.ofList name)) with
        | error failure => exact .inl ⟨failure, rfl⟩
        | ok normal =>
            have hnormal : (Except.ok normal : Except Failure String) = pure normal := rfl
            rw [hnormal, pure_bind]
            exact hclose normal (fun h => ⟨_, by rw [h]; rfl⟩) fun _ _ h => by rw [h]; rfl
  · next name detail _ _ =>
      cases Style.normalName (String.ofList name) with
      | error failure => exact .inl ⟨failure, rfl⟩
      | ok normal => exact .inr ⟨_, rfl⟩

theorem renderPieces_eq_ok {opened : List Opened} {ps : List Piece} {chars : List Char}
    (h : renderPieces opened ps = .ok chars) : chars = pictured ps := by
  induction ps generalizing opened chars with
  | nil => simpa [renderPieces, pictured, eq_comm] using h
  | cons piece ps ih =>
      have hmap {text : List Char} (h : (renderPieces opened ps).map (text ++ ·) = .ok chars) :
          chars = text ++ pictured ps := by
        obtain ⟨later, hlater, rfl⟩ := Action.except_map_eq_ok.mp h
        rw [ih hlater]
      cases piece with
      | raw text => exact hmap h
      | literal text => exact hmap h
      | tag body position =>
          obtain ⟨failure, hfails⟩ | ⟨later, hlater⟩ := renderPieces_tag opened body position ps
          · cases hfails.symm.trans h
          · exact ih (hlater.symm.trans h)

/-- Of a text that can be read as markup its pieces are shown. -/
theorem render_eq_ok {text : String} {chars : List Char} (h : render text = .ok chars) :
    chars = shown text.toList := by
  rw [render_eq] at h
  obtain ⟨pictures, hpictures, rfl⟩ := Action.except_map_eq_ok.mp h
  rw [renderPieces_eq_ok hpictures, shown]

/-- A text in which markup takes nothing for more than text is shown like any text: with the
pictures of emoji, and without some control characters. -/
theorem render_of_isPlain {text : String} (h : IsPlain text.toList) :
    render text = .ok ((Emoji.replace text.toList).filter fun c => !isDropped c) := by
  rw [render_eq, renderPieces_of_untagged (tags_of_not_holdsTag h.1), ← shown_of_isPlain h]
  rfl

theorem splitTag_slash (name : List Char) :
    splitTag ('/' :: name) = ('/' :: (splitTag name).1, (splitTag name).2) := by
  unfold splitTag
  rw [List.dropWhile_cons_of_pos (by decide), List.takeWhile_cons_of_pos (by decide)]
  split <;> rfl

/-- A text whose first tag closes a style cannot be read as markup: no style is open. -/
theorem exists_render_eq_error {text : String} {name : List Char} {more : List (List Char)}
    (h : tags text.toList = ('/' :: name) :: more) : ∃ failure, render text = .error failure := by
  obtain ⟨front, position, rest, hpieces, hfront, -⟩ := exists_of_filterMap_body? h
  have hclose (name : String) : close? name [] = none := by simp [close?]
  obtain ⟨failure, hfails⟩ : ∃ failure,
      renderPieces [] (.tag ('/' :: name) position :: rest) = .error failure := by
    rw [renderPieces, splitTag_slash]
    simp only [hclose]
    split
    · exact ⟨_, rfl⟩
    · cases Style.normalName (Text.trim (String.ofList (splitTag name).1)) with
      | error failure => exact ⟨failure, rfl⟩
      | ok name => exact ⟨_, rfl⟩
  refine ⟨failure, ?_⟩
  rw [render_eq, hpieces, renderPieces_append hfront, hfails]
  rfl

/-- A tag opens a style that the tag with a slash closes. -/
structure Marks (name : List Char) (style : Opened) : Prop where
  opens : ∀ position rest,
    renderPieces [] (.tag name position :: rest) = renderPieces [style] rest
  closes : ∀ position rest,
    renderPieces [style] (.tag ('/' :: name) position :: rest) = renderPieces [] rest

/-- A plain name of a style marks it. -/
theorem marks_of_normalName {name : String} (hname : splitTag name.toList = (name.toList, none))
    (hslash : name.toList.head? ≠ some '/') (htrim : Text.trim name = name) (hne : name ≠ "")
    (hnormal : Style.normalName name = .ok name) : Marks name.toList ⟨name, none⟩ where
  opens position rest := by
    rw [renderPieces, hname]
    split
    · next heq =>
        obtain ⟨hbody, -⟩ := Prod.mk.inj heq
        simp [hbody] at hslash
    · next heq =>
        obtain ⟨rfl, rfl⟩ := Prod.mk.inj heq
        simp [hnormal, bind, Except.bind]
  closes position rest := by
    rw [renderPieces, splitTag_slash, hname]
    simp [htrim, hne, hnormal, bind, Except.bind, close?, Opened.check]

/-- What marks one style, and perhaps closes it, can be read as markup. -/
theorem render_of_marks {text : String} {name : List Char} {style : Opened}
    (hmarks : Marks name style)
    (h : tags text.toList = [name] ∨ tags text.toList = [name, '/' :: name]) :
    render text = .ok (shown text.toList) := by
  obtain ⟨chars, hchars⟩ : ∃ chars, renderPieces [] (pieces 0 text.toList) = .ok chars := by
    obtain ⟨more, htags, hmore⟩ : ∃ more, tags text.toList = name :: more ∧
        (more = [] ∨ more = ['/' :: name]) := by
      rcases h with h | h
      · exact ⟨_, h, .inl rfl⟩
      · exact ⟨_, h, .inr rfl⟩
    obtain ⟨front, position, rest, hpieces, hfront, hrest⟩ := exists_of_filterMap_body? htags
    rw [hpieces, renderPieces_append hfront, hmarks.opens]
    rcases hmore with rfl | rfl
    · exact ⟨_, by rw [renderPieces_of_untagged hrest]; rfl⟩
    · obtain ⟨inner, position, last, rfl, hinner, hlast⟩ := exists_of_filterMap_body? hrest
      exact ⟨_, by
        rw [renderPieces_append hinner, hmarks.closes, renderPieces_of_untagged hlast]; rfl⟩
  rw [render_eq, hchars, shown, renderPieces_eq_ok hchars]
  rfl

/-! ## Escaped text -/

theorem escapeTags_of_tag {text body after : List Char} {count : Nat}
    (h : markedTag? text = some (count, body, after)) :
    escapeTags text = escapeTag count body ++ escapeTags after := by
  rw [escapeTags.eq_def]
  cases text with
  | nil => cases h
  | cons c rest =>
      dsimp only
      split
      · next h' =>
          obtain ⟨rfl, rfl, rfl⟩ : _ ∧ _ ∧ _ := by simpa [h] using h'
          rfl
      · next h' => cases h.symm.trans h'

theorem escapeTags_of_none {c : Char} {rest : List Char} (h : markedTag? (c :: rest) = none) :
    escapeTags (c :: rest) = c :: escapeTags rest := by
  rw [escapeTags]
  split
  · next h' => cases h.symm.trans h'
  · rfl

/-- No tag goes on from before into the text: behind its backslashes comes a bracket, or nothing. -/
def IsApart (text : List Char) : Prop := ∀ c ∈ (text.dropWhile (· = '\\')).head?, c = '['

@[simp]
theorem isApart_nil : IsApart [] := by simp [IsApart]

@[simp]
theorem isApart_slash (text : List Char) : IsApart ('\\' :: text) ↔ IsApart text := by
  simp [IsApart]

@[simp]
theorem isApart_bracket (text : List Char) : IsApart ('[' :: text) := by simp [IsApart]

@[simp]
theorem isApart_slashes (count : Nat) (text : List Char) :
    IsApart (List.replicate count '\\' ++ text) ↔ IsApart text := by
  induction count with
  | zero => rfl
  | succ n ih => rw [List.replicate_succ, List.cons_append, isApart_slash, ih]

@[simp]
theorem isApart_bracketed (body rest : List Char) : IsApart (bracketed body ++ rest) :=
  isApart_bracket _

/-- What goes on from before as a tag and ends it is not apart. -/
theorem not_isApart {inside after : List Char} (hinside : ∀ d ∈ inside, isInside d = true) :
    ¬IsApart (inside ++ ']' :: after) := by
  induction inside with
  | nil => simp [IsApart]
  | cons d inside ih =>
      obtain ⟨hd, hrest⟩ := List.forall_mem_cons.mp hinside
      by_cases hslash : d = '\\'
      · subst hslash
        simpa using ih hrest
      · simp only [isInside, Bool.and_eq_true, decide_eq_true_eq] at hd
        simp [IsApart, hslash, hd.2]

/-- What looks like the end of a tag in an escaped text is that in the text itself. -/
theorem exists_of_escapeTags_append {text rest inside after : List Char}
    (hinside : ∀ d ∈ inside, isInside d = true) (hrest : IsApart rest)
    (h : escapeTags text ++ rest = inside ++ ']' :: after) :
    ∃ after', text = inside ++ ']' :: after' := by
  induction text using escapeTags.induct generalizing inside with
  | case1 =>
      rw [escapeTags, List.nil_append] at h
      exact absurd (h ▸ hrest) (not_isApart hinside)
  | case2 c text count body after' htag ih =>
      rw [escapeTags_of_tag htag, List.append_assoc] at h
      have hapart : IsApart (escapeTag count body ++ (escapeTags after' ++ rest)) := by
        simp [escapeTag]
      exact absurd (h ▸ hapart) (not_isApart hinside)
  | case3 c text hnone ih =>
      rw [escapeTags_of_none hnone, List.cons_append] at h
      cases inside with
      | nil =>
          obtain ⟨rfl, -⟩ := List.cons.inj h
          exact ⟨text, rfl⟩
      | cons d inside =>
          obtain ⟨rfl, hlater⟩ := List.cons.inj h
          obtain ⟨after', rfl⟩ := ih (List.forall_mem_cons.mp hinside).2 hlater
          exact ⟨after', rfl⟩

theorem isInside_of_isBody {body : List Char} (h : IsBody body) :
    ∀ d ∈ body, isInside d = true := by
  obtain ⟨c, rest, rfl, hstarts, hrest⟩ := h
  refine List.forall_mem_cons.mpr ⟨?_, hrest⟩
  by_contra hbracket
  obtain rfl | rfl : c = ']' ∨ c = '[' := by
    simpa [isInside, Decidable.or_iff_not_imp_left] using hbracket
  all_goals exact absurd hstarts (by decide)

/-- Where no tag starts in a text, none starts in the escaped text, whatever follows. -/
theorem markedTag?_escapeTags_append_of_ne {c : Char} {text rest : List Char}
    (hnone : markedTag? (c :: text) = none) (hslash : c ≠ '\\') (hrest : IsApart rest) :
    markedTag? (c :: (escapeTags text ++ rest)) = none := by
  cases hmarked : markedTag? (c :: (escapeTags text ++ rest)) with
  | none => rfl
  | some marked =>
      rcases marked with ⟨count, body, after⟩
      obtain ⟨htext, hbody⟩ := markedTag?_eq_some_iff.mp hmarked
      cases count with
      | succ count => simp [List.replicate_succ, hslash] at htext
      | zero =>
          obtain ⟨rfl, htail⟩ : c = '[' ∧ escapeTags text ++ rest = body ++ ']' :: after := by
            simpa [bracketed] using htext
          obtain ⟨after', rfl⟩ :=
            exists_of_escapeTags_append (isInside_of_isBody hbody) hrest htail
          have hthere : markedTag? ('[' :: (body ++ ']' :: after')) = some (0, body, after') :=
            markedTag?_eq_some_iff.mpr ⟨by simp [bracketed], hbody⟩
          cases hnone.symm.trans hthere

/-- The same behind backslashes, if something else comes behind them. -/
theorem markedTag?_escapeTags_append {c : Char} {text rest : List Char}
    (hnone : markedTag? (c :: text) = none) (hmore : ∃ d ∈ c :: text, d ≠ '\\')
    (hrest : IsApart rest) : markedTag? (c :: (escapeTags text ++ rest)) = none := by
  induction text generalizing c with
  | nil => exact markedTag?_escapeTags_append_of_ne hnone (by simpa using hmore) hrest
  | cons d text ih =>
      by_cases hslash : c = '\\'
      · subst hslash
        rw [markedTag?_slash, Option.map_eq_none_iff] at hnone ⊢
        rw [escapeTags_of_none hnone]
        exact ih hnone (by simpa using hmore)
      · exact markedTag?_escapeTags_append_of_ne hnone hslash hrest

theorem markedTag?_escapeTag (count : Nat) {body : List Char} (hbody : IsBody body)
    (rest : List Char) :
    markedTag? (escapeTag count body ++ rest) = some (2 * count + 1, body, rest) :=
  markedTag?_eq_some_iff.mpr ⟨by simp [escapeTag], hbody⟩

theorem markedTag?_of_notMem {text : List Char} (h : '[' ∉ text) : markedTag? text = none := by
  cases hmarked : markedTag? text with
  | none => rfl
  | some marked =>
      obtain ⟨htext, -⟩ := markedTag?_eq_some_iff.mp hmarked
      exact absurd (by rw [htext]; simp [bracketed]) h

/-- A text without a bracket is escaped as it is. -/
theorem escapeTags_of_notMem {text : List Char} (h : '[' ∉ text) : escapeTags text = text := by
  induction text with
  | nil => rw [escapeTags]
  | cons c rest ih =>
      rw [escapeTags_of_none (markedTag?_of_notMem h), ih (List.not_mem_of_not_mem_cons h)]

/-- The tags of an escaped text are those that follow it, some backslashes before them. -/
theorem exists_tags_escapeTags_append (text : List Char) {rest : List Char}
    (hrest : IsApart rest) :
    ∃ count, tags (escapeTags text ++ rest) = tags (List.replicate count '\\' ++ rest) := by
  induction text using escapeTags.induct with
  | case1 => exact ⟨0, by simp [escapeTags]⟩
  | case2 c text count body after htag ih =>
      obtain ⟨last, hlast⟩ := ih
      have hbody := (markedTag?_eq_some_iff.mp htag).2
      have hodd : (2 * count + 1) % 2 = 1 := by omega
      refine ⟨last, ?_⟩
      rw [escapeTags_of_tag htag, List.append_assoc,
        tags_of_tag (markedTag?_escapeTag count hbody _), if_pos hodd, List.nil_append, hlast]
  | case3 c text hnone ih =>
      -- Backslashes up to the end of the text are those of what follows.
      by_cases hmore : ∃ d ∈ c :: text, d ≠ '\\'
      · obtain ⟨last, hlast⟩ := ih
        refine ⟨last, ?_⟩
        rw [escapeTags_of_none hnone, List.cons_append,
          tags_of_none (markedTag?_escapeTags_append hnone hmore hrest), hlast]
      · have hslashes : ∀ d ∈ c :: text, d = '\\' := by simpa using hmore
        refine ⟨(c :: text).length, ?_⟩
        rw [escapeTags_of_notMem (fun hbracket => absurd (hslashes _ hbracket) (by decide)),
          ← List.eq_replicate_of_mem hslashes]

/-- An escaped text starts with a bracket only if the text does. -/
theorem head?_escapeTags_append {c : Char} {text rest : List Char}
    (h : (escapeTags (c :: text) ++ rest).head? = some '[') : c = '[' := by
  cases hmarked : markedTag? (c :: text) with
  | none => simpa [escapeTags_of_none hmarked] using h
  | some marked =>
      rcases marked with ⟨count, body, after⟩
      simp [escapeTags_of_tag hmarked, escapeTag, List.replicate_succ] at h

/-- An escaped text is left as it is, whatever follows, if no backslash stands before a bracket or
at its end. -/
theorem bare_escapeTags_append {text rest : List Char} (hrest : IsApart rest)
    (hslash : ¬['\\', '['] <:+: text) (hend : text.getLast? ≠ some '\\') :
    bare (escapeTags text ++ rest) = text ++ bare rest := by
  induction text using escapeTags.induct with
  | case1 => simp [escapeTags]
  | case2 c text count body after htag ih =>
      obtain ⟨htext, hbody⟩ := markedTag?_eq_some_iff.mp htag
      have hodd : (2 * count + 1) % 2 = 1 := by omega
      have hhalf : (2 * count + 1) / 2 = count := by omega
      have hafter : after <:+ c :: text := ⟨_, by rw [htext, List.append_assoc]⟩
      have hlater := ih (fun hwithin => hslash (hwithin.trans hafter.isInfix))
        fun hlast => hend (by simp [htext, hlast])
      rw [escapeTags_of_tag htag, List.append_assoc,
        bare_of_tag (markedTag?_escapeTag count hbody _), if_pos hodd, hhalf, hlater, htext]
      simp
  | case3 c text hnone ih =>
      have hmore : ∃ d ∈ c :: text, d ≠ '\\' := by
        refine ⟨(c :: text).getLast (by simp), List.getLast_mem _, fun hlast => hend ?_⟩
        rw [List.getLast?_eq_some_getLast (by simp), hlast]
      have hplain : ¬(c = '\\' ∧ (escapeTags text ++ rest).head? = some '[') := by
        rintro ⟨rfl, hhead⟩
        cases text with
        | nil => simp at hend
        | cons d text =>
            obtain rfl := head?_escapeTags_append hhead
            exact hslash ⟨[], text, rfl⟩
      have hlater := ih (fun hwithin => hslash (List.infix_cons hwithin))
        fun hlast => hend (by simp [List.getLast?_cons, hlast])
      rw [escapeTags_of_none hnone, List.cons_append,
        bare_of_none (markedTag?_escapeTags_append hnone hmore hrest), if_neg hplain, hlater,
        List.cons_append]

theorem getLast?_escapeTags (text : List Char) :
    (escapeTags text).getLast? = text.getLast? := by
  induction text using escapeTags.induct with
  | case1 => rw [escapeTags]
  | case2 c text count body after htag ih =>
      have hlast : (bracketed body).getLast? = some ']' := by rw [bracketed, List.getLast?_concat]
      rw [escapeTags_of_tag htag, (markedTag?_eq_some_iff.mp htag).1, escapeTag]
      simp [ih, hlast]
  | case3 c text hnone ih =>
      rw [escapeTags_of_none hnone, List.getLast?_cons, ih, List.getLast?_cons]

/-- Escaping a text adds to its tags only, unless it ends with a backslash. -/
theorem exists_toList_escape (text : String) :
    ∃ count, (escape text).toList = escapeTags text.toList ++ List.replicate count '\\' ∧
      (text.toList.getLast? ≠ some '\\' → count = 0) := by
  unfold escape
  dsimp only
  split
  · next hlone =>
      refine ⟨1, by simp, fun hend => absurd ?_ hend⟩
      obtain ⟨before, hbefore⟩ : ['\\'] <:+ escapeTags text.toList := by
        simpa using (Bool.and_eq_true_iff.mp hlone).1
      rw [← getLast?_escapeTags, ← hbefore]
      simp
  · exact ⟨0, by simp, fun _ => rfl⟩

/-! ### Markup around escaped text -/

theorem markedTag?_cons_of_ne {c : Char} (hbracket : c ≠ '[') (hslash : c ≠ '\\')
    (rest : List Char) : markedTag? (c :: rest) = none := by
  simp [markedTag?, tagAt?, hbracket, hslash]

/-- Text without brackets and backslashes is left as it is, and holds no tags. -/
theorem tags_and_bare_append {front : List Char} (hfront : '[' ∉ front ∧ '\\' ∉ front)
    (rest : List Char) :
    tags (front ++ rest) = tags rest ∧ bare (front ++ rest) = front ++ bare rest := by
  induction front with
  | nil => exact ⟨rfl, rfl⟩
  | cons c front ih =>
      simp only [List.mem_cons, not_or] at hfront
      obtain ⟨⟨hbracket, hbrackets⟩, hslash, hslashes⟩ := hfront
      obtain ⟨htags, hbare⟩ := ih ⟨hbrackets, hslashes⟩
      have hnone := markedTag?_cons_of_ne (Ne.symm hbracket) (Ne.symm hslash) (front ++ rest)
      rw [List.cons_append, tags_of_none hnone, bare_of_none hnone, htags, hbare]
      simp [Ne.symm hslash]

/-- A tag between other texts. -/
theorem tags_and_bare_bracketed {body : List Char} (hbody : IsBody body) (rest : List Char) :
    tags (bracketed body ++ rest) = body :: tags rest ∧
      bare (bracketed body ++ rest) = bare rest := by
  have hmarked : markedTag? (bracketed body ++ rest) = some (0, body, rest) :=
    markedTag?_eq_some_iff.mpr ⟨rfl, hbody⟩
  rw [tags_of_tag hmarked, bare_of_tag hmarked]
  simp

/-- Escaped text holds no tags, but backslashes at its end may take away a tag that follows. -/
theorem tags_escape_append (text : String) {body : List Char} (hbody : IsBody body)
    (rest : List Char) :
    tags ((escape text).toList ++ (bracketed body ++ rest)) = tags rest ∨
      tags ((escape text).toList ++ (bracketed body ++ rest)) = body :: tags rest := by
  obtain ⟨count, hescape, -⟩ := exists_toList_escape text
  obtain ⟨last, hlast⟩ :=
    exists_tags_escapeTags_append text.toList
      ((isApart_slashes count _).mpr (isApart_bracketed body rest))
  rw [hescape, List.append_assoc, hlast, ← List.append_assoc, List.replicate_append_replicate]
  have hmarked : markedTag? (List.replicate (last + count) '\\' ++ (bracketed body ++ rest)) =
      some (last + count, body, rest) := markedTag?_eq_some_iff.mpr ⟨rfl, hbody⟩
  rw [tags_of_tag hmarked]
  split
  · exact .inl rfl
  · exact .inr rfl

theorem tags_escape (text : String) : tags (escape text).toList = [] := by
  obtain ⟨count, hescape, -⟩ := exists_toList_escape text
  have hnone (n : Nat) : tags (List.replicate n '\\') = [] := by
    refine tags_of_not_holdsTag fun ⟨body, _, hwithin⟩ => ?_
    have hbracket : '[' ∈ bracketed body := by simp [bracketed]
    simpa using hwithin.subset hbracket
  obtain ⟨last, hlast⟩ := exists_tags_escapeTags_append text.toList
    (by simpa using (isApart_slashes count []).mpr isApart_nil)
  rw [hescape, hlast, List.replicate_append_replicate, hnone]

theorem bare_escape_append {text : String} (hslash : ¬['\\', '['] <:+: text.toList)
    (hend : text.toList.getLast? ≠ some '\\') {rest : List Char} (hrest : IsApart rest) :
    bare ((escape text).toList ++ rest) = text.toList ++ bare rest := by
  obtain ⟨count, hescape, hcount⟩ := exists_toList_escape text
  rw [hescape, hcount hend]
  simpa using bare_escapeTags_append hrest hslash hend

end FormatLauncher.Console.Markup
