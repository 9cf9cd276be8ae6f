/-
# Texts in pieces

A text in which every dollar sign opens a group is made of pieces: groups, and characters on their
own.  As long as the texts that are filled in hold no dollar sign and no brace, they make no group
and break none, so going through the table one token after the other comes to the same as going
through the pieces once.  Then the order of the entries does not matter either.
-/

import Mathlib.Data.List.Nodup
import Mathlib.Logic.Function.Basic
import FormatLauncher.Proofs.Leftovers
import FormatLauncher.Proofs.Placeholder
import FormatLauncher.Proofs.Reading

namespace FormatLauncher

/-! ## Bindings in any order -/

namespace Bindings

variable {bindings other : Bindings} {name text : String}

theorem mem_of_get? (h : bindings.get? name = some text) : (name, text) ∈ bindings := by
  obtain ⟨before, after, rfl, -⟩ := List.lookup_eq_some_iff.mp h
  simp

theorem mem_of_getNonempty? (h : bindings.getNonempty? name = some text) :
    (name, text) ∈ bindings :=
  mem_of_get? (Option.filter_eq_some_iff.mp h).1

/-- Where every name is bound once, the text of a name is the one that stands next to it. -/
theorem get?_eq_some_iff (honce : (bindings.map Prod.fst).Nodup) :
    bindings.get? name = some text ↔ (name, text) ∈ bindings := by
  refine ⟨mem_of_get?, fun hmem => ?_⟩
  obtain ⟨before, after, rfl⟩ := List.append_of_mem hmem
  refine List.lookup_eq_some_iff.mpr ⟨before, after, rfl, fun binding hbinding => ?_⟩
  rw [List.map_append, List.nodup_append] at honce
  exact bne_iff_ne.mpr (honce.2.2 _ (List.mem_map_of_mem hbinding) _ (by simp)).symm

/-- Where every name is bound once, the order does not matter. -/
theorem get?_of_perm (hperm : other.Perm bindings) (honce : (bindings.map Prod.fst).Nodup)
    (name : String) : other.get? name = bindings.get? name := by
  apply Option.ext
  intro text
  rw [get?_eq_some_iff honce, get?_eq_some_iff ((hperm.map Prod.fst).nodup_iff.mpr honce),
    hperm.mem_iff]

end Bindings

namespace Placeholder

open Text

/-! ## Pieces -/

/-- There is no dollar sign and no brace in the text. -/
def Plain (text : List Char) : Prop := '$' ∉ text ∧ '{' ∉ text ∧ '}' ∉ text

instance (text : List Char) : Decidable (Plain text) :=
  inferInstanceAs (Decidable ('$' ∉ text ∧ '{' ∉ text ∧ '}' ∉ text))

/-- Every dollar sign of the text opens a group with a plain body. -/
def OpensGroups (text : List Char) : Prop :=
  ∀ before rest, text = before ++ '$' :: rest →
    ∃ body after, rest = '{' :: (body ++ '}' :: after) ∧ Plain body

/-- A piece of a text: a character on its own, or a group with its body. -/
inductive Piece
  | char (c : Char)
  | group (body : String)
  deriving DecidableEq, Repr

/-- A piece as it is written. -/
def Piece.text : Piece → List Char
  | .char c => [c]
  | .group body => (token body).toList

/-- A character on its own is no dollar sign, and a group has a plain body. -/
def Piece.IsTame : Piece → Prop
  | .char c => c ≠ '$'
  | .group body => Plain body.toList

instance : (piece : Piece) → Decidable piece.IsTame
  | .char c => inferInstanceAs (Decidable (c ≠ '$'))
  | .group body => inferInstanceAs (Decidable (Plain body.toList))

/-- Pieces as they are written, one after the other. -/
def written (ps : List Piece) : List Char := ps.flatMap Piece.text

/-- The body of the group that the text starts with, and what follows.  The body may be empty. -/
def opened? : List Char → Option (List Char × List Char)
  | '$' :: '{' :: rest =>
    match rest.dropWhile (· ≠ '}') with
    | _ :: after => some (rest.takeWhile (· ≠ '}'), after)
    | [] => none
  | _ => none

theorem toList_token (name : String) :
    (token name).toList = '$' :: '{' :: (name.toList ++ ['}']) := by
  simp [token]

/-- A text that starts with a group is the group and what follows. -/
theorem opened?_eq_some_iff {text body after : List Char} :
    opened? text = some (body, after) ↔
      text = '$' :: '{' :: (body ++ '}' :: after) ∧ '}' ∉ body := by
  constructor
  · intro h
    unfold opened? at h
    split at h
    · next rest =>
        by_cases hclosed : '}' ∈ rest
        · obtain ⟨first, tail, rfl, hfree⟩ := List.eq_append_cons_of_mem hclosed
          obtain ⟨htake, hdrop⟩ := takeWhile_and_dropWhile hfree tail
          rw [htake, hdrop] at h
          obtain ⟨rfl, rfl⟩ : first = body ∧ tail = after := by simpa using h
          exact ⟨rfl, hfree⟩
        · rw [dropWhile_of_notMem hclosed] at h
          cases h
    · cases h
  · rintro ⟨rfl, hfree⟩
    obtain ⟨htake, hdrop⟩ := takeWhile_and_dropWhile hfree after
    simp only [opened?, htake, hdrop]

/-- What follows a group is shorter than the text. -/
theorem length_lt_of_opened? {text body after : List Char} (h : opened? text = some (body, after)) :
    after.length < text.length := by
  rw [(opened?_eq_some_iff.mp h).1]
  simp only [List.length_cons, List.length_append]
  omega

/-- The pieces of a text, from left to right. -/
def pieces (text : List Char) : List Piece :=
  match text with
  | [] => []
  | c :: rest =>
    match _hopened : opened? (c :: rest) with
    | some (body, after) => .group (String.ofList body) :: pieces after
    | none => .char c :: pieces rest
termination_by text.length
decreasing_by
  · exact length_lt_of_opened? _hopened
  · simp

theorem pieces_of_some {c : Char} {rest body after : List Char}
    (h : opened? (c :: rest) = some (body, after)) :
    pieces (c :: rest) = .group (String.ofList body) :: pieces after := by
  rw [pieces]
  split <;> simp_all

theorem pieces_of_none {c : Char} {rest : List Char} (h : opened? (c :: rest) = none) :
    pieces (c :: rest) = .char c :: pieces rest := by
  rw [pieces]
  split <;> simp_all

/-- The pieces of a text make up the text. -/
theorem written_pieces (text : List Char) : written (pieces text) = text := by
  induction text using pieces.induct with
  | case1 => simp [pieces, written]
  | case2 c rest body after hopened ih =>
      rw [written] at ih
      rw [pieces_of_some hopened, written, List.flatMap_cons, ih, Piece.text, toList_token,
        String.toList_ofList, (opened?_eq_some_iff.mp hopened).1]
      simp
  | case3 c rest hopened ih =>
      rw [written] at ih
      rw [pieces_of_none hopened, written, List.flatMap_cons, ih]
      rfl

theorem opensGroups_of_append (before : List Char) {text : List Char}
    (h : OpensGroups (before ++ text)) : OpensGroups text := by
  intro start rest htext
  exact h (before ++ start) rest (by rw [htext, List.append_assoc])

/-- In tame pieces every dollar sign opens a group. -/
theorem opensGroups_written {ps : List Piece} (htame : ∀ p ∈ ps, p.IsTame) :
    OpensGroups (written ps) := by
  induction ps with
  | nil =>
      intro before rest htext
      simp [written] at htext
  | cons p ps ih =>
      have hrest := ih fun q hq => htame q (List.mem_cons_of_mem _ hq)
      have hfirst := htame p List.mem_cons_self
      -- A dollar sign is the one that opens the piece, or it comes after the piece.
      have hlater : ∀ start : List Char, '$' ∉ start → OpensGroups (start ++ written ps) := by
        intro start hfree before rest htext
        rcases List.append_eq_append_iff.mp htext with ⟨more, rfl, hps⟩ | ⟨more, hstart, hps⟩
        · exact hrest more rest hps
        · cases more with
          | nil => exact hrest [] rest hps.symm
          | cons c more =>
              obtain ⟨rfl, -⟩ := List.cons.inj hps
              exact absurd (by simp [hstart]) hfree
      cases p with
      | char c => exact hlater [c] (by simpa using Ne.symm hfirst)
      | group body =>
          intro before rest htext
          rw [written, List.flatMap_cons, Piece.text, toList_token] at htext
          cases before with
          | nil =>
              obtain rfl := (List.cons.inj htext).2
              exact ⟨body.toList, written ps, by simp [written], hfirst⟩
          | cons c before =>
              refine hlater ('{' :: (body.toList ++ ['}'])) ?_ before rest (List.cons.inj htext).2
              simpa using hfirst.1

/-- A text in which every dollar sign opens a group is one of tame pieces. -/
theorem tame_pieces {text : List Char} (h : OpensGroups text) : ∀ p ∈ pieces text, p.IsTame := by
  induction text using pieces.induct with
  | case1 => simp [pieces]
  | case2 c rest body after hopened ih =>
      obtain ⟨htext, hfree⟩ := opened?_eq_some_iff.mp hopened
      have hplain : Plain body := by
        obtain ⟨body', after', hrest, hplain⟩ := h [] _ htext
        have hbody := (takeWhile_and_dropWhile hplain.2.2 after').1
        rw [← (List.cons.inj hrest).2, (takeWhile_and_dropWhile hfree after).1] at hbody
        rwa [hbody]
      have hafter : OpensGroups after := by
        apply opensGroups_of_append ('$' :: '{' :: (body ++ ['}']))
        rw [htext] at h
        simpa using h
      rw [pieces_of_some hopened]
      intro p hp
      rcases List.mem_cons.mp hp with rfl | hp
      · simpa [Piece.IsTame] using hplain
      · exact ih hafter p hp
  | case3 c rest hopened ih =>
      rw [pieces_of_none hopened]
      intro p hp
      rcases List.mem_cons.mp hp with rfl | hp
      · rintro rfl
        obtain ⟨body, after, rfl, hplain⟩ := h [] rest rfl
        rw [opened?_eq_some_iff.mpr ⟨rfl, hplain.2.2⟩] at hopened
        cases hopened
      · exact ih (opensGroups_of_append [c] h) p hp

/-- Every dollar sign opens a group exactly if all pieces are tame. -/
theorem opensGroups_iff {text : List Char} :
    OpensGroups text ↔ ∀ p ∈ pieces text, p.IsTame :=
  ⟨tame_pieces, fun h => written_pieces text ▸ opensGroups_written h⟩

instance (text : List Char) : Decidable (OpensGroups text) := decidable_of_iff' _ opensGroups_iff

/-! ## Filling in -/

/-- The pieces with the first group of every body as it shows, and the later ones as they are
written. -/
def filled (shows : String → String) : List Piece → List Char
  | [] => []
  | .char c :: ps => c :: filled shows ps
  | .group body :: ps =>
    (shows body).toList ++ filled (Function.update shows body (token body)) ps

/-- What a group shows as: the text that a table has for its token, or the group itself. -/
def standsFor (table : Bindings) (body : String) : String :=
  (table.get? (token body)).getD (token body)

/-- The pieces with the first group of one body replaced by the characters of a text. -/
def replaceGroup (body text : String) : List Piece → List Piece
  | [] => []
  | .char c :: ps => .char c :: replaceGroup body text ps
  | .group other :: ps =>
    if other = body then text.toList.map .char ++ ps
    else .group other :: replaceGroup body text ps

/-- Groups that all show as themselves leave the pieces as they are written. -/
theorem filled_token (ps : List Piece) : filled token ps = written ps := by
  induction ps with
  | nil => rfl
  | cons p ps ih =>
      cases p with
      | char c => rw [filled, ih]; rfl
      | group body => rw [filled, Function.update_eq_self, ih]; rfl

theorem filled_append_char (shows : String → String) (text : List Char) (ps : List Piece) :
    filled shows (text.map .char ++ ps) = text ++ filled shows ps := by
  induction text with
  | nil => rfl
  | cons c text ih => rw [List.map_cons, List.cons_append, filled, ih, List.cons_append]

/-- Replacing the first group of a body is to have it show as another text. -/
theorem filled_replaceGroup {shows : String → String} {body : String}
    (hbody : shows body = token body) (text : String) (ps : List Piece) :
    filled shows (replaceGroup body text ps) = filled (Function.update shows body text) ps := by
  induction ps generalizing shows with
  | nil => rfl
  | cons p ps ih =>
      cases p with
      | char c => rw [replaceGroup, filled, filled, ih hbody]
      | group other =>
          by_cases hother : other = body
          · subst hother
            rw [replaceGroup, if_pos rfl, filled_append_char, filled, Function.update_self,
              Function.update_idem, ← hbody, Function.update_eq_self]
          · rw [replaceGroup, if_neg hother, filled, filled, Function.update_of_ne hother,
              Function.update_comm (Ne.symm hother), ih]
            rwa [Function.update_of_ne (Ne.symm hother)]

theorem tame_replaceGroup {ps : List Piece} {text : String} (htame : ∀ p ∈ ps, p.IsTame)
    (htext : Plain text.toList) (body : String) : ∀ p ∈ replaceGroup body text ps, p.IsTame := by
  induction ps with
  | nil => exact htame
  | cons p ps ih =>
      have hfirst := htame p List.mem_cons_self
      have hps := fun q hq => htame q (List.mem_cons_of_mem p hq)
      intro q hq
      cases p with
      | char c =>
          rcases List.mem_cons.mp hq with rfl | hq
          · exact hfirst
          · exact ih hps q hq
      | group other =>
          rw [replaceGroup] at hq
          split at hq
          · rcases List.mem_append.mp hq with hq | hq
            · obtain ⟨c, hc, rfl⟩ := List.mem_map.mp hq
              rintro rfl
              exact htext.1 hc
            · exact hps q hq
          · rcases List.mem_cons.mp hq with rfl | hq
            · exact hfirst
            · exact ih hps q hq

/-! ## Turn by turn -/

/-- Two groups with plain bodies that a text starts with are the same. -/
theorem eq_of_token_append {name other : String} {after rest : List Char}
    (hname : Plain name.toList) (hother : Plain other.toList)
    (h : (token name).toList ++ after = (token other).toList ++ rest) : name = other := by
  have hbodies : name.toList ++ '}' :: after = other.toList ++ '}' :: rest := by
    simpa [toList_token] using h
  rw [← String.toList_inj, ← (takeWhile_and_dropWhile hname.2.2 after).1, hbodies,
    (takeWhile_and_dropWhile hother.2.2 rest).1]

theorem token_inj {name other : String} : token name = token other ↔ name = other := by
  rw [← String.toList_inj, toList_token, toList_token]
  simp [String.toList_inj]

/-- One turn replaces the first group whose body is the name of the token. -/
theorem replaceFirst_written {ps : List Piece} {name : String} (htame : ∀ p ∈ ps, p.IsTame)
    (hname : Plain name.toList) (text : String) :
    replaceFirst (token name).toList text.toList (written ps) =
      written (replaceGroup name text ps) := by
  induction ps with
  | nil => simp [written, replaceGroup, toList_token, replaceFirst, splitAtFirst?, afterStart?]
  | cons p ps ih =>
      have hfirst := htame p List.mem_cons_self
      have hrest := ih fun q hq => htame q (List.mem_cons_of_mem p hq)
      have hskip : ∀ before : List Char, '$' ∉ before →
          replaceFirst (token name).toList text.toList (before ++ written ps) =
            before ++ written (replaceGroup name text ps) := by
        intro before hfree
        rw [← hrest, toList_token, replaceFirst_append_of_notMem hfree]
      cases p with
      | char c => exact hskip [c] (by simpa using Ne.symm hfirst)
      | group other =>
          by_cases hother : other = name
          · subst hother
            rw [replaceGroup, if_pos rfl, written, List.flatMap_cons, Piece.text,
              replaceFirst_needle_append]
            simp [written, List.flatMap_map, Piece.text]
          · rw [replaceGroup, if_neg hother]
            -- The token does not begin here, and inside the group there is no dollar sign.
            have hnot : afterStart? (token name).toList (written (.group other :: ps)) = none := by
              rw [Option.eq_none_iff_forall_ne_some]
              intro after hafter
              exact hother (eq_of_token_append hname hfirst
                (afterStart?_eq_some_iff.mp hafter).symm).symm
            have hinside : '$' ∉ '{' :: (other.toList ++ ['}']) := by simpa using hfirst.1
            have hwritten : ∀ qs, written (.group other :: qs) =
                '$' :: (('{' :: (other.toList ++ ['}'])) ++ written qs) := by
              intro qs
              rw [written, List.flatMap_cons, Piece.text, toList_token]
              rfl
            rw [hwritten] at hnot ⊢
            rw [replaceFirst_cons_of_none hnot, hskip _ hinside, hwritten]

/-- An entry for a token with a plain name, bound to a plain text. -/
def IsPlainEntry (entry : String × String) : Prop :=
  ∃ name, entry.1 = token name ∧ Plain name.toList ∧ Plain entry.2.toList

theorem standsFor_cons (name text : String) (table : Bindings) :
    standsFor ((token name, text) :: table) = Function.update (standsFor table) name text := by
  funext body
  by_cases hbody : body = name
  · subst hbody
    simp [standsFor, Bindings.get?]
  · have hkey : (token body == token name) = false := by simpa [token_inj] using hbody
    rw [Function.update_of_ne hbody, standsFor, Bindings.get?, List.lookup_cons, hkey]
    rfl

theorem standsFor_of_notMem {table : Bindings} {name : String}
    (h : token name ∉ table.map Prod.fst) : standsFor table name = token name := by
  have hnone : table.lookup (token name) = none := by
    rw [List.lookup_eq_none_iff]
    intro entry hentry
    exact bne_iff_ne.mpr fun heq => h (heq ▸ List.mem_map_of_mem hentry)
  rw [standsFor, Bindings.get?, hnone]
  rfl

/-- Going through a table of plain entries fills in the first group of every body. -/
theorem expandChars_written {table : Bindings} (hplain : ∀ entry ∈ table, IsPlainEntry entry)
    (hkeys : (table.map Prod.fst).Nodup) {ps : List Piece} (htame : ∀ p ∈ ps, p.IsTame) :
    expandChars table (written ps) = filled (standsFor table) ps := by
  induction table generalizing ps with
  | nil => exact (filled_token ps).symm
  | cons entry table ih =>
      obtain ⟨key, text⟩ := entry
      obtain ⟨name, rfl, hname, htext⟩ := hplain _ List.mem_cons_self
      obtain ⟨hnew, hkeys⟩ := List.nodup_cons.mp hkeys
      calc expandChars ((token name, text) :: table) (written ps)
        _ = expandChars table (written (replaceGroup name text ps)) := by
            rw [← replaceFirst_written htame hname]
            rfl
        _ = filled (standsFor table) (replaceGroup name text ps) :=
            ih (fun other hother => hplain other (List.mem_cons_of_mem _ hother)) hkeys
              (tame_replaceGroup htame htext name)
        _ = filled (standsFor ((token name, text) :: table)) ps := by
            rw [filled_replaceGroup (standsFor_of_notMem hnew), standsFor_cons]


/-! ## Contexts -/

/-- The texts that a context binds names to are plain, and so are the names. -/
structure Context.IsPlain (context : Context) : Prop where
  environment : ∀ binding ∈ context.environment,
    Plain binding.1.toList ∧ Plain binding.2.toList
  directory : Plain context.directory.toList
  root : ∀ root ∈ context.root, Plain root.toList
  folders : ∀ binding ∈ context.folders, Plain binding.1.toList ∧ Plain binding.2.toList

/-- A context binds every variable and every folder once. -/
structure Context.BindsOnce (context : Context) : Prop where
  environment : (context.environment.map Prod.fst).Nodup
  folders : (context.folders.map Prod.fst).Nodup

/-- A context is another one with the variables and the folders in some order. -/
structure Context.Reorders (other context : Context) : Prop where
  environment : other.environment.Perm context.environment
  directory : other.directory = context.directory
  root : other.root = context.root
  folders : other.folders.Perm context.folders

/-- The names of the tokens, in the order of the table. -/
def names (context : Context) : List String :=
  let home := context.home?.toList.map fun _ => "userHome"
  let root := (context.root.filter (· ≠ "")).toList.map fun _ => "workspaceFolder"
  let folders := context.folders.map fun binding => "workspaceFolder:" ++ binding.1
  let bound := (context.environment.filter fun binding => binding.2 ≠ "").map
    fun binding => "env:" ++ binding.1
  home ++ root ++ ["cwd"] ++ folders ++ bound

theorem keys_table (context : Context) :
    (table context).map Prod.fst = (names context).map token := by
  simp [table, names, Function.comp_def]

theorem plain_append {text more : List Char} : Plain (text ++ more) ↔ Plain text ∧ Plain more := by
  simp only [Plain, List.mem_append, not_or]
  constructor
  · rintro ⟨⟨h₁, h₂⟩, ⟨h₃, h₄⟩, h₅, h₆⟩
    exact ⟨⟨h₁, h₃, h₅⟩, h₂, h₄, h₆⟩
  · rintro ⟨⟨h₁, h₃, h₅⟩, h₂, h₄, h₆⟩
    exact ⟨⟨h₁, h₂⟩, ⟨h₃, h₄⟩, h₅, h₆⟩

theorem Context.IsPlain.home {context : Context} (hplain : context.IsPlain) {home : String}
    (hhome : context.home? = some home) : Plain home.toList := by
  rcases Option.or_eq_some_iff.mp hhome with h | ⟨-, h⟩
  · exact (hplain.environment _ (Bindings.mem_of_getNonempty? h)).2
  · exact (hplain.environment _ (Bindings.mem_of_getNonempty? h)).2

/-- In a plain context all entries of the table are plain. -/
theorem Context.IsPlain.entries {context : Context} (hplain : context.IsPlain) :
    ∀ entry ∈ table context, IsPlainEntry entry := by
  intro entry hentry
  rcases mem_table_cases hentry with ⟨home, hhome, rfl⟩ | ⟨root, hroot, rfl⟩ | rfl |
    ⟨binding, hmem, rfl⟩ | ⟨binding, hmem, rfl⟩
  · exact ⟨"userHome", rfl, by decide +kernel, hplain.home hhome⟩
  · exact ⟨"workspaceFolder", rfl, by decide +kernel, hplain.root root hroot⟩
  · exact ⟨"cwd", rfl, by decide +kernel, hplain.directory⟩
  · obtain ⟨hname, hfolder⟩ := hplain.folders binding hmem
    refine ⟨"workspaceFolder:" ++ binding.1, rfl, ?_, hfolder⟩
    rw [String.toList_append, plain_append]
    exact ⟨by decide +kernel, hname⟩
  · obtain ⟨hname, hvalue⟩ := hplain.environment binding hmem
    refine ⟨"env:" ++ binding.1, rfl, ?_, hvalue⟩
    rw [String.toList_append, plain_append]
    exact ⟨by decide +kernel, hname⟩

/-- No two names in the table are the same. -/
theorem Context.BindsOnce.names {context : Context} (honce : context.BindsOnce) :
    (names context).Nodup := by
  have hprefix : ∀ (start : String) {bindings : Bindings}, (bindings.map Prod.fst).Nodup →
      (bindings.map fun binding => start ++ binding.1).Nodup := by
    intro start bindings hnodup
    have hinjective : Function.Injective (start ++ ·) := by
      intro name other heq
      simpa [← String.toList_inj] using heq
    simpa [Function.comp_def] using hnodup.map hinjective
  have hone : ∀ (name : String) (bound : Option String),
      (bound.toList.map fun _ => name).Nodup := by
    intro name bound
    cases bound <;> simp
  have hbound : ((context.environment.filter fun binding => binding.2 ≠ "").map Prod.fst).Nodup :=
    honce.environment.sublist (List.filter_sublist.map Prod.fst)
  unfold Placeholder.names
  simp only [List.nodup_append, hone, hprefix _ honce.folders, hprefix _ hbound, List.mem_append,
    List.mem_map, List.mem_singleton, List.nodup_singleton, true_and]
  refine ⟨⟨⟨?_, ?_⟩, ?_⟩, ?_⟩
  · rintro _ ⟨_, -, rfl⟩ _ ⟨_, -, rfl⟩
    decide
  · rintro _ (⟨_, -, rfl⟩ | ⟨_, -, rfl⟩) _ rfl
    · decide
    · decide
  · rintro _ ((⟨_, -, rfl⟩ | ⟨_, -, rfl⟩) | rfl) _ ⟨_, -, rfl⟩
    all_goals simp [← String.toList_inj]
  · rintro _ (((⟨_, -, rfl⟩ | ⟨_, -, rfl⟩) | rfl) | ⟨_, -, rfl⟩) _ ⟨_, -, rfl⟩
    all_goals simp [← String.toList_inj]

/-- In a context that binds once no two entries of the table have the same token. -/
theorem Context.BindsOnce.keys {context : Context} (honce : context.BindsOnce) :
    ((table context).map Prod.fst).Nodup := by
  rw [keys_table]
  exact honce.names.map fun _ _ => token_inj.mp

section Reordering

variable {context other : Context}

theorem Context.Reorders.isPlain (h : other.Reorders context) (hplain : context.IsPlain) :
    other.IsPlain where
  environment binding hbinding := hplain.environment binding (h.environment.mem_iff.mp hbinding)
  directory := h.directory ▸ hplain.directory
  root := h.root ▸ hplain.root
  folders binding hbinding := hplain.folders binding (h.folders.mem_iff.mp hbinding)

theorem Context.Reorders.bindsOnce (h : other.Reorders context) (honce : context.BindsOnce) :
    other.BindsOnce where
  environment := (h.environment.map Prod.fst).nodup_iff.mpr honce.environment
  folders := (h.folders.map Prod.fst).nodup_iff.mpr honce.folders

/-- A context in another order has the same table in another order. -/
theorem Context.Reorders.table (h : other.Reorders context) (honce : context.BindsOnce) :
    (Placeholder.table other).Perm (Placeholder.table context) := by
  have hhome : other.home? = context.home? := by
    simp only [Context.home?, Bindings.getNonempty?,
      Bindings.get?_of_perm h.environment honce.environment]
  simp only [Placeholder.table, hhome, h.root, h.directory]
  apply List.Perm.append
  · exact (h.folders.map _).append_left _
  · exact (h.environment.filter _).map _

/-- In whichever order a context binds names, every group shows as the same. -/
theorem standsFor_of_reorders (h : other.Reorders context) (honce : context.BindsOnce) :
    standsFor (table other) = standsFor (table context) := by
  funext body
  rw [standsFor, standsFor, Bindings.get?_of_perm (h.table honce) honce.keys]

end Reordering

/-! ## Whole requests -/

/-- In a plain context an element has the first group of every body filled in. -/
theorem expand_eq_filled {context : Context} (hplain : context.IsPlain)
    (honce : context.BindsOnce) {value : String} (hvalue : OpensGroups value.toList) :
    expand (table context) value =
      String.ofList (filled (standsFor (table context)) (pieces value.toList)) := by
  rw [expand, ← expandChars_written hplain.entries honce.keys (tame_pieces hvalue),
    written_pieces]

/-- An element that does not stand for interpreters stays where it is. -/
theorem splice_append_cons {interpreter : Option (List String)} {value : String}
    (hvalue : interpreter = none ∨ value ≠ interpreterToken) (before after : List String) :
    splice interpreter (before ++ value :: after) =
      splice interpreter before ++ value :: splice interpreter after := by
  cases interpreter with
  | none => rfl
  | some paths =>
      have hne : value ≠ interpreterToken := hvalue.resolve_left (by simp)
      simp [splice, hne]

/-- In a plain context, in whichever order it binds names, an element in which every dollar sign
opens a group has the first group of every body filled in and nothing else changed: leniently this
is the answer, and strictly it is the only one.  So a list of such elements, or of elements that
stand for such interpreters, resolves to the same in every order. -/
theorem resolve_eq_filled {context : Context} (hplain : context.IsPlain)
    (honce : context.BindsOnce) {other : Context} (hother : other.Reorders context)
    (interpreter : Option (List String)) :
    (∀ before value after, OpensGroups value.toList →
      (interpreter = none ∨ value ≠ interpreterToken) → ∀ w, ∃ front back,
        ((resolve before other interpreter false).outcome w).1 = .ok front ∧
        ((resolve after other interpreter false).outcome w).1 = .ok back ∧
        let texts := front ++
          String.ofList (filled (standsFor (table context)) (pieces value.toList)) :: back
        ((resolve (before ++ value :: after) other interpreter false).outcome w).1 = .ok texts ∧
          ∀ found,
            ((resolve (before ++ value :: after) other interpreter true).outcome w).1 = .ok found →
              found = texts) ∧
    ∀ values, (∀ value ∈ splice interpreter values, OpensGroups value.toList) → ∀ strict,
      resolve values other interpreter strict = resolve values context interpreter strict := by
  have hexpand : ∀ {value : String}, OpensGroups value.toList → expand (table other) value =
      String.ofList (filled (standsFor (table context)) (pieces value.toList)) := by
    intro value hvalue
    rw [expand_eq_filled (hother.isPlain hplain) (hother.bindsOnce honce) hvalue,
      standsFor_of_reorders hother honce]
  constructor
  · intro before value after hvalue hown w
    have htexts : (expandAll (before ++ value :: after) other interpreter).texts =
        (expandAll before other interpreter).texts ++
          String.ofList (filled (standsFor (table context)) (pieces value.toList)) ::
            (expandAll after other interpreter).texts := by
      simp only [expandAll, splice_append_cons hown, List.map_append, List.map_cons,
        hexpand hvalue]
    refine ⟨_, _, outcome_resolve before other interpreter false w,
      outcome_resolve after other interpreter false w, ?_⟩
    rw [outcome_resolve, outcome_resolve, htexts]
    refine ⟨rfl, fun found hfound => ?_⟩
    split at hfound
    · cases hfound
    · exact (Except.ok.inj hfound).symm
  · intro values hvalues strict
    have hsame : expandAll values other interpreter = expandAll values context interpreter := by
      have htexts : (splice interpreter values).map (expand (table other)) =
          (splice interpreter values).map (expand (table context)) := by
        apply List.map_congr_left
        intro value hvalue
        rw [hexpand (hvalues value hvalue), expand_eq_filled hplain honce (hvalues value hvalue)]
      rw [expandAll, htexts]
      rfl
    rw [resolve, resolve, hsame]

/-- Two variables in the other order: the second group for the directory stays, and so does the
group that stands for nothing. -/
theorem resolve_eq_filled_swapped :
    ((resolve [token "cwd" ++ "/" ++ token "env:A" ++ "/" ++ token "cwd" ++ token "b"]
      ⟨[("A", "x"), ("HOME", "/h")], "/work", none, []⟩ none false).outcome
        ⟨⟨[]⟩, fun _ _ _ => none, [], [], [], [], .ample⟩).1 =
      .ok ["/work/x/" ++ token "cwd" ++ token "b"] := by
  have hall := @resolve_eq_filled ⟨[("HOME", "/h"), ("A", "x")], "/work", none, []⟩
    ⟨by decide +kernel, by decide +kernel, by decide +kernel, by decide +kernel⟩
    ⟨by decide +kernel, by decide +kernel⟩ ⟨[("A", "x"), ("HOME", "/h")], "/work", none, []⟩
    ⟨.swap _ _ _, rfl, rfl, .refl _⟩ none
  obtain ⟨front, back, hfront, hback, htexts, -⟩ := hall.1 []
    (token "cwd" ++ "/" ++ token "env:A" ++ "/" ++ token "cwd" ++ token "b") []
    (by decide +kernel) (.inl rfl) ⟨⟨[]⟩, fun _ _ _ => none, [], [], [], [], .ample⟩
  rw [outcome_resolve] at hfront hback
  obtain rfl : [] = front := Except.ok.inj hfront
  obtain rfl : [] = back := Except.ok.inj hback
  rw [List.nil_append] at htexts
  rw [htexts]
  exact congrArg Except.ok (by decide +kernel)

end Placeholder

end FormatLauncher
