/-
# Interpreters in place of their element

The element for interpreters becomes the whole list of them, every other element stays one.  What
takes its place is expanded like everything else, while the search for an executable next to an
interpreter goes by the interpreters as they are given.  So an interpreter reaches the arguments
unchanged exactly if expanding leaves it alone, as it does when no token stands in it.
-/

import FormatLauncher.Proofs.Placeholder
import FormatLauncher.Proofs.Sibling

namespace FormatLauncher

namespace Placeholder

open Text

/-- The elements in order: the paths in place of the element for interpreters, and every other
element expanded. -/
def inserted (table : Bindings) (paths values : List String) : List String :=
  values.flatMap fun value => if value = interpreterToken then paths else [expand table value]

theorem inserted_cons_token (table : Bindings) (paths values : List String) :
    inserted table paths (interpreterToken :: values) = paths ++ inserted table paths values := by
  rw [inserted, List.flatMap_cons, if_pos rfl]
  rfl

theorem inserted_cons_of_ne {value : String} (h : value ≠ interpreterToken) (table : Bindings)
    (paths values : List String) :
    inserted table paths (value :: values) = expand table value :: inserted table paths values := by
  rw [inserted, List.flatMap_cons, if_neg h]
  rfl

/-- Expanding comes to the expanded interpreters in place of their element. -/
theorem texts_eq_inserted (values : List String) (context : Context) (paths : List String) :
    (expandAll values context (some paths)).texts =
      inserted (table context) (paths.map (expand (table context))) values := by
  change (splice (some paths) values).map (expand (table context)) = _
  rw [splice, List.map_flatMap, inserted]
  congr 1
  funext value
  rw [apply_ite (List.map _)]
  rfl

/-- Lists of one length put in place of the element come to the same exactly if they are the same or
nothing is put in place. -/
theorem inserted_eq_inserted_iff {table : Bindings} {paths other : List String}
    (hlength : paths.length = other.length) {values : List String} :
    inserted table paths values = inserted table other values ↔
      (interpreterToken ∈ values → paths = other) := by
  constructor
  · intro h hvalue
    induction values with
    | nil => simp at hvalue
    | cons value values ih =>
        by_cases htoken : value = interpreterToken
        · subst htoken
          rw [inserted_cons_token, inserted_cons_token] at h
          exact (List.append_inj h hlength).1
        · rw [inserted_cons_of_ne htoken, inserted_cons_of_ne htoken] at h
          exact ih (List.cons.inj h).2 ((List.mem_cons.mp hvalue).resolve_left (Ne.symm htoken))
  · intro h
    by_cases hvalue : interpreterToken ∈ values
    · rw [h hvalue]
    · rw [inserted, inserted, List.flatMap_def, List.flatMap_def]
      refine congrArg List.flatten (List.map_congr_left fun value hmem => ?_)
      have hne : value ≠ interpreterToken := fun heq => hvalue (heq ▸ hmem)
      rw [if_neg hne, if_neg hne]

/-- A text in which no token of the table stands is left alone. -/
theorem expand_of_no_token {table : Bindings} {text : String}
    (h : ∀ entry ∈ table, ¬entry.1.toList <:+: text.toList) : expand table text = text := by
  have hchars : expandChars table text.toList = text.toList := by
    induction table with
    | nil => rfl
    | cons entry table ih =>
        have hfirst := first?_eq_none_iff.mpr (h entry List.mem_cons_self)
        have hturn := replaceFirst_of_first?_eq_none hfirst entry.2.toList
        calc expandChars (entry :: table) text.toList
          _ = expandChars table (replaceFirst entry.1.toList entry.2.toList text.toList) := rfl
          _ = text.toList := by
              rw [hturn]
              exact ih fun other hother => h other (List.mem_cons_of_mem _ hother)
  rw [expand, hchars, String.ofList_toList]

/-- Expanding leniently yields the expanded interpreters in place of their element and every other
element expanded, in order.  These are the interpreters themselves exactly if the element is not
there or expanding leaves all of them alone; it leaves a path alone in which no token stands.  In a
lenient plan the arguments are made in this way, from the interpreters that the search next to an
interpreter goes by as they are. -/
theorem resolve_inserts_expanded (values : List String) (context : Context) (paths : List String)
    (w : World) :
    ((resolve values context (some paths) false).outcome w).1 =
        .ok (inserted (table context) (paths.map (expand (table context))) values) ∧
      (((resolve values context (some paths) false).outcome w).1 =
          .ok (inserted (table context) paths values) ↔
        (interpreterToken ∈ values → ∀ path ∈ paths, expand (table context) path = path)) ∧
      (∀ path : String, (∀ entry ∈ table context, ¬entry.1.toList <:+: path.toList) →
        expand (table context) path = path) ∧
      ∀ (f : Formatter) (folder : Option Folder) (plan : Formatter.Plan),
        f.settings.strict = false → ((f.plan folder).outcome w).1 = .ok plan →
        plan.query.interpreter = some paths →
          plan.arguments = inserted (table plan.query.context)
            (paths.map (expand (table plan.query.context))) f.settings.arguments ∧
          ∀ sibling, Locator.findSibling .slash w paths f.tool.binary = some sibling →
            ∃ path ∈ paths,
              sibling = Spelling.join (Spelling.directory path) f.tool.binary ∧
              (interpreterToken ∈ f.settings.arguments →
                expand (table plan.query.context) path ∈ plan.arguments) := by
  have hlenient : ∀ (values : List String) (context : Context),
      ((resolve values context (some paths) false).outcome w).1 =
        .ok (inserted (table context) (paths.map (expand (table context))) values) := by
    intro values context
    rw [outcome_resolve, texts_eq_inserted]
    rfl
  refine ⟨hlenient values context, ?_, fun path => expand_of_no_token, ?_⟩
  · have hfixed : paths.map (expand (table context)) = paths ↔
        ∀ path ∈ paths, expand (table context) path = path := by
      simpa using List.map_inj_left (l := paths) (f := expand (table context)) (g := id)
    rw [hlenient, Except.ok.injEq, inserted_eq_inserted_iff (List.length_map _), hfixed]
  · intro f folder plan hstrict hplan hinterpreter
    rw [Formatter.result_plan] at hplan
    obtain ⟨⟨known, interpreter⟩, -, hplan⟩ := Action.except_bind_eq_ok.mp hplan
    obtain ⟨arguments, harguments, rfl⟩ := Action.except_map_eq_ok.mp hplan
    obtain rfl : interpreter = some paths := hinterpreter
    rw [hstrict, hlenient] at harguments
    obtain rfl := Except.ok.inj harguments
    refine ⟨rfl, fun sibling hsibling => ?_⟩
    obtain ⟨-, before, path, after, hsplit, heq, -⟩ := Locator.findSibling_eq_some hsibling
    have hpath : path ∈ paths := by simp [hsplit]
    refine ⟨path, hpath, heq, fun htoken => ?_⟩
    refine List.mem_flatMap.mpr ⟨interpreterToken, htoken, ?_⟩
    rw [if_pos rfl]
    exact List.mem_map_of_mem hpath

/-- An interpreter in a directory that has the name of a token: its place among the arguments is taken
by another path. -/
theorem resolve_inserts_expanded_directory :
    ((resolve [interpreterToken] ⟨[], "/work", none, []⟩
        (some ["/v/" ++ token "cwd" ++ "/bin/python"]) false).outcome
          ⟨⟨[]⟩, fun _ _ _ => none, [], [], [], [], .ample⟩).1 = .ok ["/v//work/bin/python"] ∧
      ((resolve [interpreterToken] ⟨[], "/work", none, []⟩
        (some ["/v/" ++ token "cwd" ++ "/bin/python"]) false).outcome
          ⟨⟨[]⟩, fun _ _ _ => none, [], [], [], [], .ample⟩).1 ≠
        .ok ["/v/" ++ token "cwd" ++ "/bin/python"] := by
  have hall := resolve_inserts_expanded [interpreterToken] ⟨[], "/work", none, []⟩
    ["/v/" ++ token "cwd" ++ "/bin/python"] ⟨⟨[]⟩, fun _ _ _ => none, [], [], [], [], .ample⟩
  constructor
  · rw [hall.1]
    exact congrArg Except.ok (by decide +kernel)
  · intro hsame
    have hfixed := hall.2.1.mp hsame List.mem_cons_self _ List.mem_cons_self
    revert hfixed
    decide +kernel

end Placeholder

end FormatLauncher
