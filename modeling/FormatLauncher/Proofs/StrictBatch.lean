/-
# Strict and lenient batches

In a strict batch the files for which a token is left are held back: they get a failure about the
configuration, and nothing is started for them.  The other files go through the stages that they go
through in the lenient batch, if there the tasks of the files held back never get a turn.  The two
caches keep the same outcomes under keys that differ in their strictness, and a strict query with a
token left in it shares its key with no query of another kind.
-/

import FormatLauncher.Proofs.AnyOrder
import FormatLauncher.Proofs.Lenient
import FormatLauncher.Proofs.Strictness
import FormatLauncher.Proofs.Unlogged

namespace FormatLauncher

open Action

theorem Locator.Query.key_withStrict_inj {q other : Query} (hstrict : q.strict = other.strict)
    (strict : Bool) :
    (q.withStrict strict).key = (other.withStrict strict).key ↔ q.key = other.key := by
  simp [key, withStrict, toolOrUsual, hstrict]

namespace Formatter

/-- The plan with a strict or lenient query. -/
def Plan.withStrict (plan : Plan) (strict : Bool) : Plan :=
  { plan with query := plan.query.withStrict strict }

/-- The draft with a strict or lenient query. -/
def Draft.withStrict (draft : Draft) (strict : Bool) : Draft :=
  { draft with plan := draft.plan.withStrict strict }

/-- The stage with a strict or lenient query. -/
def Stage.withStrict (strict : Bool) : Stage → Stage
  | .planned draft => .planned (draft.withStrict strict)
  | .printed before after => .printed before after
  | .settled outcome => .settled outcome

/-- The file is read and gets a folder, and for that folder a token is left. -/
def HeldBack (f : Formatter) (w : World) (file : Path) : Prop :=
  (∃ text, readText w file = .ok text) ∧
    ∃ folder, f.workspace.folderFor w (some file) = .ok folder ∧ f.LeavesToken w folder

instance (f : Formatter) (w : World) (file : Path) : Decidable (f.HeldBack w file) :=
  match hread : readText w file, hfolder : f.workspace.folderFor w (some file) with
  | .ok _, .ok folder =>
    decidable_of_iff (f.LeavesToken w folder) (by simp [HeldBack, hread, hfolder])
  | .error _, _ => isFalse (by simp [HeldBack, hread])
  | .ok _, .error _ => isFalse (by simp [HeldBack, hfolder])

/-- The file whose turn it is. -/
def Turn.index : Turn → Nat
  | .locate n | .print n | .write n => n

/-- The turns without those of the files that are held back. -/
def turnsOfOthers (f : Formatter) (w : World) (files : List Path) (turns : List Turn) : List Turn :=
  turns.filter fun turn => decide (∀ file ∈ files[turn.index]?, ¬f.HeldBack w file)

/-! ## Plans and drafts -/

section Drafts

variable {f : Formatter} {w : World} {folder : Option Folder} {file : Path}

/-- A lenient query is planned this way. -/
theorem strict_of_plan {plan : Plan} (hplan : ((f.plan folder).outcome w).1 = .ok plan) :
    plan.query.strict = f.settings.strict := by
  obtain ⟨_, _, _, -, rfl⟩ := plan_eq_ok hplan
  rfl

/-- What planning comes to, strict or lenient, when the surroundings are known. -/
theorem result_plan_withStrict {context : Placeholder.Context}
    {interpreter : Option (List String)}
    (hknown : ((f.surroundings folder).outcome w).1 = .ok (context, interpreter)) (strict : Bool) :
    let expansion := Placeholder.expandAll f.settings.arguments context interpreter
    (((f.withStrict strict).plan folder).outcome w).1 =
      if strict = true → expansion.leftovers = [] then
        .ok ⟨folder, expansion.texts, f.query context interpreter strict⟩
      else .error (.configuration (.unresolved expansion.leftovers)) := by
  intro expansion
  obtain ⟨_, hresolve⟩ :=
    Placeholder.answers_resolve f.settings.arguments context interpreter strict w
  rw [result_plan, show (f.withStrict strict).surroundings folder = f.surroundings folder from rfl,
    hknown]
  dsimp only [Except.bind, withStrict]
  rw [hresolve]
  split
  · rfl
  · rfl

/-- Where no token is left for a folder, a strict plan is the lenient one with a strict query. -/
theorem result_plan_of_settled (h : ¬f.LeavesToken w folder) :
    (((f.withStrict true).plan folder).outcome w).1 =
        (((f.withStrict false).plan folder).outcome w).1.map (Plan.withStrict · true) ∧
      ∀ plan, (((f.withStrict false).plan folder).outcome w).1 = .ok plan →
        ¬plan.query.LeavesToken := by
  cases hknown : ((f.surroundings folder).outcome w).1 with
  | error failure =>
      have herror (strict : Bool) :
          (((f.withStrict strict).plan folder).outcome w).1 = .error failure := by
        rw [result_plan, show (f.withStrict strict).surroundings folder = f.surroundings folder
          from rfl, hknown]
        rfl
      simp [herror, Except.map]
  | ok known =>
      rcases known with ⟨context, interpreter⟩
      rw [leavesToken_iff hknown, not_or, ← Placeholder.leftovers_eq_nil_iff] at h
      rw [result_plan_withStrict hknown, result_plan_withStrict hknown, if_pos fun _ => h.1,
        if_pos (by simp)]
      refine ⟨rfl, ?_⟩
      rintro plan ⟨⟩
      exact h.2

/-- Where a token is left for a folder, a strict plan fails, or the token is in the path. -/
theorem result_plan_of_token (h : f.LeavesToken w folder) :
    ∃ plan, (((f.withStrict false).plan folder).outcome w).1 = .ok plan ∧
      ((∃ problem, (((f.withStrict true).plan folder).outcome w).1 =
          .error (.configuration problem)) ∨
        plan.query.LeavesToken ∧ (((f.withStrict true).plan folder).outcome w).1 =
          .ok (plan.withStrict true)) := by
  obtain ⟨context, interpreter, hknown, htoken⟩ := h
  rw [result_plan_withStrict hknown, result_plan_withStrict hknown, if_pos (by simp)]
  refine ⟨_, rfl, ?_⟩
  by_cases hsettled :
      (Placeholder.expandAll f.settings.arguments context interpreter).leftovers = []
  · rw [if_pos fun _ => hsettled]
    exact .inr ⟨htoken.resolve_left (Placeholder.leftovers_eq_nil_iff.mp hsettled), rfl⟩
  · rw [if_neg (by simpa using hsettled)]
    exact .inl ⟨_, rfl⟩

/-- A file that is not held back is planned strictly as it is leniently. -/
theorem result_draft_of_settled (h : ¬f.HeldBack w file) :
    (((f.withStrict true).draft file).outcome w).1 =
        (((f.withStrict false).draft file).outcome w).1.map (Draft.withStrict · true) ∧
      ∀ draft, (((f.withStrict false).draft file).outcome w).1 = .ok draft →
        ¬draft.plan.query.LeavesToken := by
  rw [result_draft, result_draft]
  cases hread : readText w file with
  | error failure => simp [Except.bind, Except.map]
  | ok text =>
      rw [show (f.withStrict true).workspace = f.workspace from rfl,
        show (f.withStrict false).workspace = f.workspace from rfl]
      cases hfolder : f.workspace.folderFor w (some file) with
      | error failure => simp [Except.bind, Except.map]
      | ok folder =>
          have hnone : ¬f.LeavesToken w folder := fun htoken =>
            h ⟨⟨text, hread⟩, folder, hfolder, htoken⟩
          obtain ⟨hplan, hplain⟩ := result_plan_of_settled hnone
          dsimp only [Except.bind]
          rw [hplan]
          cases hlenient : (((f.withStrict false).plan folder).outcome w).1 with
          | error failure => simp [Except.map]
          | ok plan =>
              refine ⟨rfl, ?_⟩
              rintro draft ⟨⟩
              exact hplain plan hlenient

/-- A file that is held back cannot be planned strictly, or else a token is left in the path. -/
theorem result_draft_of_heldBack (h : f.HeldBack w file) :
    ∃ draft, (((f.withStrict false).draft file).outcome w).1 = .ok draft ∧
      ((∃ problem, (((f.withStrict true).draft file).outcome w).1 =
          .error (.configuration problem)) ∨
        draft.plan.query.LeavesToken ∧ (((f.withStrict true).draft file).outcome w).1 =
          .ok (draft.withStrict true)) := by
  obtain ⟨⟨text, hread⟩, folder, hfolder, htoken⟩ := h
  obtain ⟨plan, hplan, hstrict⟩ := result_plan_of_token htoken
  have hdraft (strict : Bool) : (((f.withStrict strict).draft file).outcome w).1 =
      (((f.withStrict strict).plan folder).outcome w).1.map fun plan => ⟨text, plan⟩ := by
    rw [result_draft, hread, show (f.withStrict strict).workspace = f.workspace from rfl]
    simp [Except.bind, hfolder]
  rw [hdraft, hdraft, hplan]
  refine ⟨⟨text, plan⟩, rfl, ?_⟩
  obtain ⟨problem, hproblem⟩ | ⟨hquery, hstrict⟩ := hstrict
  · exact .inl ⟨problem, by rw [hproblem]; rfl⟩
  · exact .inr ⟨hquery, by rw [hstrict]; rfl⟩

end Drafts

/-! ## What every turn keeps -/

/-- A file that is held back, at a stage of the strict batch: it has failed, or it is going to. -/
def Stage.Refused (f : Formatter) (w : World) (file : Path) : Stage → Prop
  | .planned draft => ∃ plain, (((f.withStrict false).draft file).outcome w).1 = .ok plain ∧
    plain.plan.query.LeavesToken ∧ draft = plain.withStrict true
  | .printed _ _ => False
  | .settled outcome => ∃ problem, outcome = .error (.configuration problem)

/-- A file that is not held back, at a stage of the lenient batch. -/
def Stage.Accepted (f : Formatter) (w : World) (file : Path) : Stage → Prop
  | .planned draft => (((f.withStrict false).draft file).outcome w).1 = .ok draft ∧
    ¬draft.plan.query.LeavesToken
  | .printed _ _ => True
  | .settled outcome => ∀ failure, outcome = .error failure → ¬failure.IsConfiguration

/-- A file is at the same stage of the strict batch and of the lenient one, unless it is held
back. -/
def Stage.Mirrors (f : Formatter) (w : World) (file : Path) (strict lenient : Stage) : Prop :=
  if f.HeldBack w file then strict.Refused f w file
  else strict = lenient.withStrict true ∧ lenient.Accepted f w file

/-- The strict batch is where the lenient one is, but for the files that are held back: what was
located for the others is the same, and they are at the same stages. -/
structure Progress.Mirrors (f : Formatter) (w : World) (files : List Path)
    (strict lenient : Progress) (v u : World) : Prop where
  names : strict.stages.map Prod.fst = files
  length : lenient.stages.length = strict.stages.length
  stages : ∀ (n : Nat) file (stage : Stage), strict.stages[n]? = some (file, stage) →
    ∃ other, lenient.stages[n]? = some (file, other) ∧ stage.Mirrors f w file other
  alike : ∀ folder plan, (((f.withStrict false).plan folder).outcome w).1 = .ok plan →
    ¬plan.query.LeavesToken → strict.cache.outcome? (plan.query.withStrict true).key =
      lenient.cache.outcome? plan.query.key
  refused : ∀ folder plan, (((f.withStrict false).plan folder).outcome w).1 = .ok plan →
    plan.query.LeavesToken → ∀ located,
      strict.cache.outcome? (plan.query.withStrict true).key = some located →
        ∃ problem, located = .error (.configuration problem)
  accepted : ∀ key failure, lenient.cache.outcome? key = some (.error failure) →
    ¬failure.IsConfiguration
  worlds : v.unlogged = u.unlogged

theorem Progress.put_self {progress : Progress} {n : Nat} {file : Path} {stage : Stage}
    (h : progress.stages[n]? = some (file, stage)) : progress.put n file stage = progress := by
  obtain ⟨hlength, hget⟩ := List.getElem?_eq_some_iff.mp h
  rw [put, ← hget, List.set_getElem_self]

section Turns

variable {f : Formatter} {w v u : World} {files : List Path} {write : Bool} {schedule : Schedule}
  {strict lenient : Progress} {n : Nat} {file : Path}

/-- A file comes to a stage in the strict batch, and to one like it in the lenient batch. -/
theorem Progress.Mirrors.put (h : strict.Mirrors f w files lenient v u) {old new new' : Stage}
    (hold : strict.stages[n]? = some (file, old)) (hnew : new.Mirrors f w file new') {v' u' : World}
    (hworlds : v'.unlogged = u'.unlogged) :
    (strict.put n file new).Mirrors f w files (lenient.put n file new') v' u' where
  names := by
    have hsame : (strict.stages.map Prod.fst)[n]? = some file := by simp [hold]
    obtain ⟨hlength, hget⟩ := List.getElem?_eq_some_iff.mp hsame
    rw [Progress.put, List.map_set, ← hget, List.set_getElem_self, h.names]
  length := by simpa [Progress.put] using h.length
  stages m file' stage hstage := by
    have hn : n < strict.stages.length := (List.getElem?_eq_some_iff.mp hold).1
    rw [Progress.put, List.getElem?_set] at hstage ⊢
    by_cases hm : n = m
    · subst hm
      obtain ⟨rfl, rfl⟩ : file = file' ∧ new = stage := by simpa [hn] using hstage
      exact ⟨new', by simp [h.length, hn], hnew⟩
    · simpa [hm] using h.stages m file' stage (by simpa [hm] using hstage)
  alike := h.alike
  refused := h.refused
  accepted := h.accepted
  worlds := hworlds

/-- A file that is held back comes to another stage in the strict batch alone. -/
theorem Progress.Mirrors.put_heldBack (h : strict.Mirrors f w files lenient v u) {old new : Stage}
    (hold : strict.stages[n]? = some (file, old)) (hheld : f.HeldBack w file)
    (hnew : new.Refused f w file) {v' : World} (hworlds : v'.unlogged = v.unlogged) :
    (strict.put n file new).Mirrors f w files lenient v' u := by
  obtain ⟨other, hother, -⟩ := h.stages n file old hold
  have hmirrors : new.Mirrors f w file other := by rwa [Stage.Mirrors, if_pos hheld]
  have hput := h.put hold hmirrors (hworlds.trans h.worlds)
  rwa [Progress.put_self hother] at hput

/-- Locating the query of a file that is held back fails at once, and the lenient batch need not
know. -/
theorem mirrors_locate_heldBack (h : strict.Mirrors f w files lenient v u) {draft : Draft}
    (hstage : strict.stages[n]? = some (file, .planned draft)) (hheld : f.HeldBack w file) :
    ∃ strict' v', ((f.withStrict true).takeTurn write schedule strict (.locate n)).outcome v =
        (.ok strict', v') ∧ strict'.Mirrors f w files lenient v' u := by
  obtain ⟨_, -, hmirrors⟩ := h.stages n file _ hstage
  rw [Stage.Mirrors, if_pos hheld] at hmirrors
  obtain ⟨plain, hdraft, htoken, rfl⟩ := hmirrors
  obtain ⟨-, folder, hplan⟩ := draft_eq_ok hdraft
  simp only [takeTurn, hstage, outcome_bind, Locator.Cache.outcome_locate_eq]
  cases hknown : strict.cache.outcome? (plain.withStrict true).plan.query.key with
  | some known => exact ⟨strict, v, rfl, h⟩
  | none =>
      obtain ⟨tokens, hlocate⟩ :=
        Locator.outcome_locate_of_token htoken (f.withStrict true).probeLimit schedule v
      rw [show (Locator.locate (plain.withStrict true).plan.query (f.withStrict true).probeLimit
        schedule).outcome v = _ from hlocate]
      refine ⟨_, _, rfl, ?_⟩
      have hsame {folder' : Option Folder} {plan' : Plan}
          (hplan' : (((f.withStrict false).plan folder').outcome w).1 = .ok plan') :
          (plan'.query.withStrict true).key = (plain.plan.query.withStrict true).key →
            plan'.query = plain.plan.query := fun hkey =>
        query_eq_of_key_eq hplan' hplan <| (Locator.Query.key_withStrict_inj
          ((strict_of_plan hplan').trans (strict_of_plan hplan).symm) true).mp hkey
      exact {
        names := h.names
        length := h.length
        stages := h.stages
        accepted := h.accepted
        worlds := h.worlds
        alike := by
          intro folder' plan' hplan' hplain
          rw [Locator.Cache.outcome?_ask_finish hknown, if_neg]
          · exact h.alike folder' plan' hplan' hplain
          · exact fun hkey => hplain (hsame hplan' hkey ▸ htoken)
        refused := by
          intro folder' plan' hplan' htoken' located hlocated
          rw [Locator.Cache.outcome?_ask_finish hknown] at hlocated
          split at hlocated
          · exact ⟨_, (Option.some.inj hlocated).symm⟩
          · exact h.refused folder' plan' hplan' htoken' located hlocated }

/-- The formatter is not run for a file that is held back. -/
theorem mirrors_print_heldBack (h : strict.Mirrors f w files lenient v u) {draft : Draft}
    (hstage : strict.stages[n]? = some (file, .planned draft)) (hheld : f.HeldBack w file) :
    ∃ strict' v', ((f.withStrict true).takeTurn write schedule strict (.print n)).outcome v =
        (.ok strict', v') ∧ strict'.Mirrors f w files lenient v' u := by
  obtain ⟨_, -, hmirrors⟩ := h.stages n file _ hstage
  rw [Stage.Mirrors, if_pos hheld] at hmirrors
  obtain ⟨plain, hdraft, htoken, rfl⟩ := hmirrors
  obtain ⟨-, folder, hplan⟩ := draft_eq_ok hdraft
  simp only [takeTurn, hstage]
  cases hknown : strict.cache.outcome? (plain.withStrict true).plan.query.key with
  | none => exact ⟨strict, v, rfl, h⟩
  | some located =>
      obtain ⟨problem, rfl⟩ := h.refused folder plain.plan hplan htoken located hknown
      obtain ⟨records, hcollecting⟩ := outcome_collecting file ((f.withStrict true).print
        (plain.withStrict true) (.error (.configuration problem)) schedule) v
      have hrefused : (Stage.settled (.error (.configuration problem))).Refused f w file :=
        ⟨problem, rfl⟩
      exact ⟨_, _, outcome_bind_of_ok hcollecting, h.put_heldBack hstage hheld hrefused rfl⟩

/-- One step for a file that is held back: the lenient batch need not know. -/
theorem mirrors_takeTurn_heldBack (h : strict.Mirrors f w files lenient v u) {turn : Turn}
    (hfile : files[turn.index]? = some file) (hheld : f.HeldBack w file) :
    ∃ strict' v', ((f.withStrict true).takeTurn write schedule strict turn).outcome v =
        (.ok strict', v') ∧ strict'.Mirrors f w files lenient v' u := by
  have hsame {n : Nat} {other : Path} {stage : Stage} (hn : turn.index = n)
      (hstage : strict.stages[n]? = some (other, stage)) : other = file := by
    rw [← h.names, List.getElem?_map, hn, hstage] at hfile
    exact Option.some.inj hfile
  by_cases hready : turn.Ready strict
  · cases hready with
    | locate hstage =>
        obtain rfl := hsame rfl hstage
        exact mirrors_locate_heldBack h hstage hheld
    | print hstage _ =>
        obtain rfl := hsame rfl hstage
        exact mirrors_print_heldBack h hstage hheld
    | write hstage =>
        obtain rfl := hsame rfl hstage
        obtain ⟨_, -, hmirrors⟩ := h.stages _ _ _ hstage
        rw [Stage.Mirrors, if_pos hheld] at hmirrors
        exact hmirrors.elim
  · rw [takeTurn_of_not_ready hready]
    exact ⟨strict, v, rfl, h⟩

/-- Another file is at the same stage of both batches. -/
theorem Progress.Mirrors.of_not_heldBack (h : strict.Mirrors f w files lenient v u) {stage : Stage}
    (hstage : strict.stages[n]? = some (file, stage)) (hother : ¬f.HeldBack w file) :
    ∃ other : Stage, lenient.stages[n]? = some (file, other) ∧ stage = other.withStrict true ∧
      other.Accepted f w file := by
  obtain ⟨other, hlenient, hmirrors⟩ := h.stages n file stage hstage
  rw [Stage.Mirrors, if_neg hother] at hmirrors
  exact ⟨other, hlenient, hmirrors⟩

/-- Locating the query of another file does the same in both batches. -/
theorem mirrors_locate (h : strict.Mirrors f w files lenient v u) {draft : Draft}
    (hstrict : strict.stages[n]? = some (file, .planned (draft.withStrict true)))
    (hlenient : lenient.stages[n]? = some (file, .planned draft))
    (haccepted : (Stage.planned draft).Accepted f w file) :
    ∃ strict' lenient' v' u',
      ((f.withStrict true).takeTurn write schedule strict (.locate n)).outcome v =
        (.ok strict', v') ∧
      ((f.withStrict false).takeTurn write schedule lenient (.locate n)).outcome u =
        (.ok lenient', u') ∧ strict'.Mirrors f w files lenient' v' u' := by
  obtain ⟨hdraft, hplain⟩ := haccepted
  obtain ⟨-, folder, hplan⟩ := draft_eq_ok hdraft
  have hknown : strict.cache.outcome? (draft.withStrict true).plan.query.key =
    lenient.cache.outcome? draft.plan.query.key := h.alike folder draft.plan hplan hplain
  simp only [takeTurn, hstrict, hlenient, outcome_bind, Locator.Cache.outcome_locate_eq, hknown]
  cases hlocated : lenient.cache.outcome? draft.plan.query.key with
  | some known => exact ⟨strict, lenient, v, u, rfl, rfl, h⟩
  | none =>
      have hlenientQuery : draft.plan.query.withStrict false = draft.plan.query := by
        have hfalse : draft.plan.query.strict = false := strict_of_plan hplan
        rw [Locator.Query.withStrict, ← hfalse]
      have hlocate : Locator.locate (draft.withStrict true).plan.query
          (f.withStrict true).probeLimit schedule =
          Locator.locate draft.plan.query (f.withStrict false).probeLimit schedule := by
        have hsame := Locator.locate_of_settled hplain true f.probeLimit schedule
        rwa [hlenientQuery] at hsame
      obtain ⟨hresult, hworlds⟩ := Locator.ignoresLog_locate draft.plan.query
        (f.withStrict false).probeLimit schedule v u h.worlds
      rw [hlocate]
      refine ⟨_, _, _, _, rfl, rfl, ?_⟩
      have hkey {folder' : Option Folder} {plan' : Plan}
          (hplan' : (((f.withStrict false).plan folder').outcome w).1 = .ok plan') :
          (plan'.query.withStrict true).key = (draft.plan.query.withStrict true).key ↔
            plan'.query.key = draft.plan.query.key :=
        Locator.Query.key_withStrict_inj
          ((strict_of_plan hplan').trans (strict_of_plan hplan).symm) true
      rw [hlocated] at hknown
      exact {
        names := h.names
        length := h.length
        stages := h.stages
        worlds := hworlds
        alike := by
          intro folder' plan' hplan' hplain'
          rw [Locator.Cache.outcome?_ask_finish hknown, Locator.Cache.outcome?_ask_finish hlocated,
            h.alike folder' plan' hplan' hplain', hresult]
          exact if_congr (hkey hplan') rfl rfl
        refused := by
          intro folder' plan' hplan' htoken located hsome
          rw [Locator.Cache.outcome?_ask_finish hknown, if_neg] at hsome
          · exact h.refused folder' plan' hplan' htoken located hsome
          · exact fun hsame => hplain (query_eq_of_key_eq hplan' hplan ((hkey hplan').mp hsame) ▸
              htoken)
        accepted := by
          intro key failure hsome
          rw [Locator.Cache.outcome?_ask_finish hlocated] at hsome
          split at hsome
          · exact Locator.accepts_locate (strict_of_plan hplan)
              Seconds.isSome_toBinary?_of_mem_map_real _ _ _ (Option.some.inj hsome)
          · exact h.accepted key failure hsome }

/-- Running the formatter for another file does the same in both batches. -/
theorem mirrors_print (h : strict.Mirrors f w files lenient v u) {draft : Draft}
    (hstrict : strict.stages[n]? = some (file, .planned (draft.withStrict true)))
    (hlenient : lenient.stages[n]? = some (file, .planned draft))
    (hother : ¬f.HeldBack w file) (haccepted : (Stage.planned draft).Accepted f w file) :
    ∃ strict' lenient' v' u',
      ((f.withStrict true).takeTurn write schedule strict (.print n)).outcome v =
        (.ok strict', v') ∧
      ((f.withStrict false).takeTurn write schedule lenient (.print n)).outcome u =
        (.ok lenient', u') ∧ strict'.Mirrors f w files lenient' v' u' := by
  obtain ⟨hdraft, hplain⟩ := haccepted
  obtain ⟨-, folder, hplan⟩ := draft_eq_ok hdraft
  have hknown : strict.cache.outcome? (draft.withStrict true).plan.query.key =
    lenient.cache.outcome? draft.plan.query.key := h.alike folder draft.plan hplan hplain
  simp only [takeTurn, hstrict, hlenient, hknown]
  cases hlocated : lenient.cache.outcome? draft.plan.query.key with
  | none => exact ⟨strict, lenient, v, u, rfl, rfl, h⟩
  | some located =>
      have haccepts : ((f.withStrict false).print draft located schedule).Accepts :=
        accepts_print _ draft (fun failure hfailure =>
          h.accepted _ failure (hfailure ▸ hlocated)) schedule
      obtain ⟨first, hv⟩ := outcome_collecting file
        ((f.withStrict false).print draft located schedule) v
      obtain ⟨second, hu⟩ := outcome_collecting file
        ((f.withStrict false).print draft located schedule) u
      obtain ⟨hresult, hworlds⟩ :=
        (f.withStrict false).ignoresLog_print draft located schedule v u h.worlds
      rw [hresult] at hv
      have hnew : (Stage.ofPrinted draft.text
          (((f.withStrict false).print draft located schedule).outcome u).1).Mirrors f w file
          (.ofPrinted draft.text
            (((f.withStrict false).print draft located schedule).outcome u).1) := by
        rw [Stage.Mirrors, if_neg hother]
        cases hprinted : (((f.withStrict false).print draft located schedule).outcome u).1 with
        | ok after => exact ⟨rfl, trivial⟩
        | error failure =>
            refine ⟨rfl, ?_⟩
            rintro cause ⟨⟩
            exact haccepts u failure hprinted
      exact ⟨_, _, _, _, outcome_bind_of_ok hv, outcome_bind_of_ok hu,
        h.put hstrict hnew (by simpa using hworlds)⟩

/-- Writing back does the same in both batches. -/
theorem mirrors_write (h : strict.Mirrors f w files lenient v u) {before after : String}
    (hstrict : strict.stages[n]? = some (file, .printed before after))
    (hlenient : lenient.stages[n]? = some (file, .printed before after))
    (hother : ¬f.HeldBack w file) :
    ∃ strict' lenient' v' u',
      ((f.withStrict true).takeTurn write schedule strict (.write n)).outcome v =
        (.ok strict', v') ∧
      ((f.withStrict false).takeTurn write schedule lenient (.write n)).outcome u =
        (.ok lenient', u') ∧ strict'.Mirrors f w files lenient' v' u' := by
  simp only [takeTurn, hstrict, hlenient]
  obtain ⟨first, hv⟩ := outcome_collecting file (writeBack file before after write) v
  obtain ⟨second, hu⟩ := outcome_collecting file (writeBack file before after write) u
  obtain ⟨hresult, hworlds⟩ := ignoresLog_writeBack file before after write v u h.worlds
  rw [hresult] at hv
  have hnew : (Stage.settled ((writeBack file before after write).outcome u).1).Mirrors f w file
      (.settled ((writeBack file before after write).outcome u).1) := by
    rw [Stage.Mirrors, if_neg hother]
    exact ⟨rfl, accepts_writeBack file before after write u⟩
  exact ⟨_, _, _, _, outcome_bind_of_ok hv, outcome_bind_of_ok hu,
    h.put hstrict hnew (by simpa using hworlds)⟩

/-- A file of the lenient batch that is not held back is at the same stage of the strict one. -/
theorem Progress.Mirrors.of_lenient (h : strict.Mirrors f w files lenient v u) {stage : Stage}
    (hstage : lenient.stages[n]? = some (file, stage))
    (hothers : ∀ file ∈ files[n]?, ¬f.HeldBack w file) :
    strict.stages[n]? = some (file, stage.withStrict true) ∧ ¬f.HeldBack w file ∧
      stage.Accepted f w file := by
  have hlength : n < strict.stages.length :=
    h.length ▸ (List.getElem?_eq_some_iff.mp hstage).1
  obtain ⟨⟨file', stage'⟩, hstrict⟩ : ∃ entry, strict.stages[n]? = some entry :=
    ⟨_, List.getElem?_eq_getElem hlength⟩
  have hother : ¬f.HeldBack w file' := hothers file' (by simp [← h.names, hstrict])
  obtain ⟨same, hlenient, rfl, haccepted⟩ := h.of_not_heldBack hstrict hother
  obtain ⟨rfl, rfl⟩ : file' = file ∧ same = stage := by simpa [hstage, eq_comm] using hlenient
  exact ⟨hstrict, hother, haccepted⟩

/-- Something is ready for a turn of another file only in both batches. -/
theorem Progress.Mirrors.ready_of_strict (h : strict.Mirrors f w files lenient v u) {turn : Turn}
    (hothers : ∀ file ∈ files[turn.index]?, ¬f.HeldBack w file) (hready : turn.Ready strict) :
    turn.Ready lenient := by
  have hstages {n : Nat} {file : Path} {stage : Stage} (hn : turn.index = n)
      (hstage : strict.stages[n]? = some (file, stage)) :
      ∃ other : Stage, lenient.stages[n]? = some (file, other) ∧ stage = other.withStrict true ∧
        other.Accepted f w file :=
    h.of_not_heldBack hstage (hothers file (by simp [hn, ← h.names, hstage]))
  cases hready with
  | locate hstage =>
      obtain ⟨draft | _ | _, hlenient, hsame, -⟩ := hstages rfl hstage
      · exact .locate hlenient
      · cases hsame
      · cases hsame
  | print hstage hknown =>
      obtain ⟨draft | _ | _, hlenient, hsame, haccepted⟩ := hstages rfl hstage
      · obtain ⟨hdraft, hplain⟩ := haccepted
        obtain ⟨-, folder, hplan⟩ := draft_eq_ok hdraft
        obtain rfl := Stage.planned.inj hsame
        exact .print hlenient ((h.alike folder draft.plan hplan hplain).symm.trans hknown)
      · cases hsame
      · cases hsame
  | write hstage =>
      obtain ⟨_ | ⟨before, after⟩ | _, hlenient, hsame, -⟩ := hstages rfl hstage
      · cases hsame
      · exact .write hlenient
      · cases hsame

/-- One step for another file, or for none: it does the same in both batches. -/
theorem mirrors_takeTurn (h : strict.Mirrors f w files lenient v u) {turn : Turn}
    (hothers : ∀ file ∈ files[turn.index]?, ¬f.HeldBack w file) :
    ∃ strict' lenient' v' u',
      ((f.withStrict true).takeTurn write schedule strict turn).outcome v = (.ok strict', v') ∧
      ((f.withStrict false).takeTurn write schedule lenient turn).outcome u =
        (.ok lenient', u') ∧ strict'.Mirrors f w files lenient' v' u' := by
  by_cases hready : turn.Ready lenient
  · cases hready with
    | locate hstage =>
        obtain ⟨hstrict, -, haccepted⟩ := h.of_lenient hstage hothers
        exact mirrors_locate h hstrict hstage haccepted
    | print hstage _ =>
        obtain ⟨hstrict, hother, haccepted⟩ := h.of_lenient hstage hothers
        exact mirrors_print h hstrict hstage hother haccepted
    | write hstage =>
        obtain ⟨hstrict, hother, -⟩ := h.of_lenient hstage hothers
        exact mirrors_write h hstrict hstage hother
  · rw [takeTurn_of_not_ready hready,
      takeTurn_of_not_ready fun hstrict => hready (h.ready_of_strict hothers hstrict)]
    exact ⟨strict, lenient, v, u, rfl, rfl, h⟩

/-- Whatever turns are taken, the strict batch stays where the lenient one is without the turns of
the files that are held back, by induction on the turns. -/
theorem mirrors_takeTurns (h : strict.Mirrors f w files lenient v u) (turns : List Turn) :
    ∃ strict' lenient' v' u',
      ((f.withStrict true).takeTurns write schedule strict turns).outcome v = (.ok strict', v') ∧
      ((f.withStrict false).takeTurns write schedule lenient
        (f.turnsOfOthers w files turns)).outcome u = (.ok lenient', u') ∧
      strict'.Mirrors f w files lenient' v' u' := by
  induction turns generalizing strict lenient v u with
  | nil => exact ⟨strict, lenient, v, u, rfl, rfl, h⟩
  | cons turn turns ih =>
      by_cases hothers : ∀ file ∈ files[turn.index]?, ¬f.HeldBack w file
      · obtain ⟨strict₁, lenient₁, v₁, u₁, hstrict, hlenient, h₁⟩ :=
          mirrors_takeTurn h hothers
        obtain ⟨strict₂, lenient₂, v₂, u₂, hstrict', hlenient', h₂⟩ := ih h₁
        refine ⟨strict₂, lenient₂, v₂, u₂, (outcome_bind_of_ok hstrict).trans hstrict', ?_, h₂⟩
        rw [turnsOfOthers, List.filter_cons_of_pos (by simpa using hothers)]
        exact (outcome_bind_of_ok hlenient).trans hlenient'
      · obtain ⟨file, hfile, hheld⟩ : ∃ file ∈ files[turn.index]?, f.HeldBack w file := by
          simpa using hothers
        obtain ⟨strict₁, v₁, hstrict, h₁⟩ :=
          mirrors_takeTurn_heldBack h hfile hheld
        obtain ⟨strict₂, lenient₂, v₂, u₂, hstrict', hlenient', h₂⟩ := ih h₁
        refine ⟨strict₂, lenient₂, v₂, u₂, (outcome_bind_of_ok hstrict).trans hstrict', ?_, h₂⟩
        rw [turnsOfOthers, List.filter_cons_of_neg (by simpa using hothers)]
        exact hlenient'

end Turns

/-! ## A batch from its start -/

section Batch

variable {f : Formatter} {w v u : World} {files : List Path} {turns : List Turn} {write : Bool}
  {schedule : Schedule} {results : List FileResult} {later : World}

/-- At the start both batches are planned alike, but for the files that are held back. -/
theorem mirrors_start (f : Formatter) (files : List Path) (hworlds : v.unlogged = u.unlogged) :
    (Progress.start ((f.withStrict true).drafts w files)).Mirrors f w files
      (.start ((f.withStrict false).drafts w files)) v u where
  names := by simp [Progress.start, stagesOf, drafts, Function.comp_def]
  length := by simp [Progress.start, stagesOf, drafts]
  stages n file stage hstage := by
    obtain ⟨file, hfile, hsame⟩ : ∃ file', files[n]? = some file' ∧
        (file', Stage.ofDraft (((f.withStrict true).draft file').outcome w).1) = (file, stage) := by
      simpa [Progress.start, stagesOf, drafts] using hstage
    obtain ⟨rfl, rfl⟩ := Prod.mk.inj hsame
    refine ⟨.ofDraft (((f.withStrict false).draft file).outcome w).1, ?_, ?_⟩
    · simp [Progress.start, stagesOf, drafts, hfile]
    · rw [Stage.Mirrors]
      split
      · next hheld =>
          obtain ⟨draft, hdraft, ⟨problem, hstrict⟩ | ⟨htoken, hstrict⟩⟩ :=
            result_draft_of_heldBack hheld
          · rw [hstrict]
            exact ⟨problem, rfl⟩
          · rw [hstrict]
            exact ⟨draft, hdraft, htoken, rfl⟩
      · next hother =>
          obtain ⟨hstrict, hplain⟩ := result_draft_of_settled hother
          rw [hstrict]
          cases hdraft : (((f.withStrict false).draft file).outcome w).1 with
          | ok draft => exact ⟨rfl, hdraft, hplain draft hdraft⟩
          | error failure =>
              refine ⟨rfl, ?_⟩
              rintro cause ⟨⟩
              exact accepts_draft rfl file w failure hdraft
  alike _ _ _ _ := by simp [Progress.start, Locator.Cache.outcome?]
  refused _ _ _ _ _ hlocated := by simp [Progress.start, Locator.Cache.outcome?] at hlocated
  accepted _ _ hlocated := by simp [Progress.start, Locator.Cache.outcome?] at hlocated
  worlds := hworlds

/-- A failure that escapes the lenient batch while it is planned escapes the strict one too. -/
theorem escaping?_draft_withStrict {file : Path}
    (h : escaping? (((f.withStrict true).draft file).outcome w).1 = none) :
    escaping? (((f.withStrict false).draft file).outcome w).1 = none := by
  by_cases hheld : f.HeldBack w file
  · obtain ⟨draft, hdraft, -⟩ := result_draft_of_heldBack hheld
    rw [hdraft]
    rfl
  · rw [(result_draft_of_settled hheld).1] at h
    cases hdraft : (((f.withStrict false).draft file).outcome w).1 with
    | ok draft => rfl
    | error failure => simpa [hdraft, Except.map, escaping?] using h

/-- A file that is settled stays so. -/
theorem settled_of_takeTurn {progress progress' : Progress} {n : Nat} {file : Path}
    {outcome : Except Failure Bool} (h : progress.stages[n]? = some (file, .settled outcome))
    {turn : Turn}
    (hturn : (f.takeTurn write schedule progress turn).outcome v = (.ok progress', later)) :
    progress'.stages[n]? = some (file, .settled outcome) := by
  have hput {m : Nat} (hne : m ≠ n) (other : Path) (stage : Stage) :
      (progress.put m other stage).stages[n]? = some (file, .settled outcome) := by
    rw [Progress.put, List.getElem?_set_ne hne, h]
  by_cases hready : turn.Ready progress
  · cases hready with
    | locate hstage =>
        simp only [takeTurn, hstage] at hturn
        obtain ⟨⟨_, cache⟩, _, -, hpure⟩ := outcome_bind_eq_ok.mp hturn
        obtain ⟨rfl, -⟩ : { progress with cache } = progress' ∧ _ := by simpa using hpure
        exact h
    | print hstage hknown =>
        simp only [takeTurn, hstage, hknown] at hturn
        obtain ⟨printed, _, -, hpure⟩ := outcome_bind_eq_ok.mp hturn
        obtain ⟨rfl, -⟩ : progress.put _ _ (.ofPrinted _ printed) = progress' ∧ _ := by
          simpa using hpure
        exact hput (by rintro rfl; simp [h] at hstage) _ _
    | write hstage =>
        simp only [takeTurn, hstage] at hturn
        obtain ⟨written, _, -, hpure⟩ := outcome_bind_eq_ok.mp hturn
        obtain ⟨rfl, -⟩ : progress.put _ _ (.settled written) = progress' ∧ _ := by
          simpa using hpure
        exact hput (by rintro rfl; simp [h] at hstage) _ _
  · rw [takeTurn_of_not_ready hready] at hturn
    obtain ⟨rfl, -⟩ : progress = progress' ∧ v = later := by simpa using hturn
    exact h

theorem settled_of_takeTurns {progress progress' : Progress} {n : Nat} {file : Path}
    {outcome : Except Failure Bool} (h : progress.stages[n]? = some (file, .settled outcome))
    (hturns : (f.takeTurns write schedule progress turns).outcome v = (.ok progress', later)) :
    progress'.stages[n]? = some (file, .settled outcome) := by
  induction turns generalizing progress v with
  | nil =>
      obtain ⟨rfl, -⟩ : progress = progress' ∧ v = later := by simpa [takeTurns] using hturns
      exact h
  | cons turn turns ih =>
      obtain ⟨between, taken, hturn, hrest⟩ := outcome_bind_eq_ok.mp hturns
      exact ih (settled_of_takeTurn h hturn) hrest

/-- A strict batch that returns has followed the lenient one without the turns of the files that are
held back. -/
theorem mirrors_of_formatFilesInTurns
    (h : ((f.withStrict true).formatFilesInTurns files turns write schedule).outcome w =
      (.ok (some results), later)) :
    ∃ cache records lenient u,
      ((f.withStrict false).planFiles files).outcome w =
        (.ok (.start ((f.withStrict false).drafts w files)), w.logging records) ∧
      ((f.withStrict false).takeTurns write schedule
        (.start ((f.withStrict false).drafts w files)) (f.turnsOfOthers w files turns)).outcome
          (w.logging records) = (.ok lenient, u) ∧
      Progress.Mirrors f w files ⟨cache, stagesOfResults results⟩ lenient later u := by
  obtain ⟨hnone, -, strictRecords, cache, -, hstrict⟩ := takeTurns_of_formatFilesInTurns h
  obtain ⟨-, records, hplan⟩ | ⟨file, hfile, failure, _, hescapes, -⟩ :=
    (f.withStrict false).outcome_planFiles_cases files w
  · have hstart : Progress.Mirrors f w files _ _ (w.logging strictRecords) (w.logging records) :=
      mirrors_start f files (by simp)
    obtain ⟨strict, lenient, v, u, hstrict', hlenient, hmirrors⟩ :=
      @mirrors_takeTurns f w _ _ files write schedule _ _ hstart turns
    obtain ⟨rfl, rfl⟩ : strict = ⟨cache, stagesOfResults results⟩ ∧ v = later := by
      simpa [hstrict'] using hstrict
    exact ⟨cache, records, lenient, u, hplan, hlenient, hmirrors⟩
  · simp [escaping?_draft_withStrict (hnone file hfile)] at hescapes

/-- A batch whose turns were taken ends where they end, whatever it answers. -/
theorem world_formatFilesInTurns {progress : Progress} {started : World} {taken : Progress}
    (hplan : (f.planFiles files).outcome w = (.ok progress, started))
    (hturns : (f.takeTurns write schedule progress turns).outcome started = (.ok taken, later)) :
    ((f.formatFilesInTurns files turns write schedule).outcome w).2 = later := by
  rw [formatFilesInTurns, outcome_bind_of_ok hplan, outcome_bind_of_ok hturns]
  cases taken.results? with
  | none => rfl
  | some results =>
      dsimp only
      cases results.findSome? fun r => escaping? r.outcome <;> rfl

/-- The results of a batch can be read off the stages of its files. -/
theorem getElem?_of_stagesOfResults {r : FileResult} {n : Nat}
    (h : (stagesOfResults results)[n]? = some (r.file, .settled r.outcome)) :
    results[n]? = some r := by
  rw [stagesOfResults, List.getElem?_map, Option.map_eq_some_iff] at h
  obtain ⟨⟨file, outcome⟩, hr, hsame⟩ := h
  obtain ⟨rfl, houtcome⟩ := Prod.mk.inj hsame
  obtain rfl : outcome = r.outcome := Stage.settled.inj houtcome
  exact hr

/-- The stages of a strict batch that has returned. -/
theorem Progress.Mirrors.of_result {cache : Locator.Cache} {lenient : Progress}
    (h : Progress.Mirrors f w files ⟨cache, stagesOfResults results⟩ lenient later u) {n : Nat}
    {r : FileResult} (hr : results[n]? = some r) :
    if f.HeldBack w r.file then ∃ problem, r.outcome = .error (.configuration problem)
    else lenient.stages[n]? = some (r.file, .settled r.outcome) ∧
      ∀ failure, r.outcome = .error failure → ¬failure.IsConfiguration := by
  have hstage : (stagesOfResults results)[n]? = some (r.file, .settled r.outcome) := by
    simp [stagesOfResults, hr]
  obtain ⟨other, hother, hmirrors⟩ := h.stages n r.file _ hstage
  rw [Stage.Mirrors] at hmirrors
  split
  · next hheld => rwa [if_pos hheld] at hmirrors
  · next hplain =>
      rw [if_neg hplain] at hmirrors
      obtain ⟨hsame, haccepted⟩ := hmirrors
      cases other with
      | planned draft => cases hsame
      | printed before after => cases hsame
      | settled outcome =>
          obtain rfl : r.outcome = outcome := Stage.settled.inj hsame
          exact ⟨hother, haccepted⟩

/-- Strictness fails early and only adds failures.  A strict request that is prepared for a folder
for which a token is left fails, and all it does is to log; any other request is strict or lenient
alike.  In a strict batch that returns, the failures about the configuration are those of the files
held back.  The batch starts the programs and leaves the files that the lenient batch does if there
the files held back wait, and however that goes on, the other files have the results that they have
in the strict batch; if the formatter is a filter at every moment of the batch, they have them in
whatever order the lenient batch takes its turns. -/
theorem strict_fails_early_and_only_adds_failures (f : Formatter) (w : World)
    (schedule : Schedule) :
    (∀ request : Request,
      (∀ folder, request.Reaches f schedule w folder → f.LeavesToken w folder →
        ∃ tokens records, (request.make (f.withStrict true) schedule).outcome w =
          (.error (.configuration (.unresolved tokens)), w.logging records)) ∧
      ((∀ folder, request.Reaches f schedule w folder → ¬f.LeavesToken w folder) →
        (request.make (f.withStrict true) schedule).outcome w =
          (request.make (f.withStrict false) schedule).outcome w)) ∧
    ∀ files write,
      (∀ strict, (f.withStrict strict).formatFilesInTurns files (turnsInOrder files.length) write
          schedule = some <$> (f.withStrict strict).formatFiles files write schedule) ∧
      ∀ turns results later,
        ((f.withStrict true).formatFilesInTurns files turns write schedule).outcome w =
            (.ok (some results), later) →
          results.map FileResult.file = files ∧
          (∀ r ∈ results, (∃ problem, r.outcome = .error (.configuration problem)) ↔
            f.HeldBack w r.file) ∧
          later.unlogged = (((f.withStrict false).formatFilesInTurns files
            (f.turnsOfOthers w files turns) write schedule).outcome w).2.unlogged ∧
          (∀ more answers after, ((f.withStrict false).formatFilesInTurns files
              (f.turnsOfOthers w files turns ++ more) write schedule).outcome w =
                (.ok (some answers), after) →
            ∀ (n : Nat) r, results[n]? = some r → ¬f.HeldBack w r.file →
              answers[n]? = some r) ∧
          ((f.withStrict false).SteadyFor w files → ∀ others answers after,
            ((f.withStrict false).formatFilesInTurns files others write schedule).outcome w =
                (.ok (some answers), after) →
              ∀ (n : Nat) r, results[n]? = some r → ¬f.HeldBack w r.file →
                answers[n]? = some r) := by
  refine ⟨fun request => ⟨fun folder => Request.outcome_make_of_token,
    Request.outcome_make_of_settled⟩, fun files write => ⟨fun strict =>
      (f.withStrict strict).formatFilesInTurns_turnsInOrder files write schedule, ?_⟩⟩
  intro turns results later h
  obtain ⟨cache, records, lenient, u, hplan, hturns, hmirrors⟩ := mirrors_of_formatFilesInTurns h
  refine ⟨?_, ?_, ?_, ?_, ?_⟩
  · simpa [stagesOfResults, Function.comp_def] using hmirrors.names
  · intro r hr
    obtain ⟨n, hn⟩ := List.mem_iff_getElem?.mp hr
    have hresult := hmirrors.of_result hn
    by_cases hheld : f.HeldBack w r.file
    · rw [if_pos hheld] at hresult
      exact iff_of_true hresult hheld
    · rw [if_neg hheld] at hresult
      refine iff_of_false ?_ hheld
      rintro ⟨problem, hproblem⟩
      exact hresult.2 _ hproblem trivial
  · rw [world_formatFilesInTurns hplan hturns]
    exact hmirrors.worlds
  · intro more answers after hmore n r hn hother
    have hresult := hmirrors.of_result hn
    rw [if_neg hother] at hresult
    obtain ⟨-, -, records', cache', hplan', hall⟩ := takeTurns_of_formatFilesInTurns hmore
    rw [hplan] at hplan'
    rw [takeTurns_append, ← (Prod.mk.inj hplan').2, outcome_bind_of_ok hturns] at hall
    exact getElem?_of_stagesOfResults (settled_of_takeTurns hresult.1 hall)
  · intro hsteady others answers after hothers n r hn hother
    have hresult := hmirrors.of_result hn
    rw [if_neg hother] at hresult
    obtain ⟨progress, written, _, hprogress, hsound⟩ := sound_takeTurns hsteady.indifferentTo
      (sound_start write schedule (v := w.logging records) (by simp))
      (f.turnsOfOthers w files turns)
    obtain ⟨rfl, -⟩ : lenient = progress ∧ _ := by simpa [hturns] using hprogress
    have hsame : r.outcome = (f.withStrict false).resultAlone w write schedule r.file :=
      (hsound.stages r.file (.settled r.outcome) (List.mem_of_getElem? hresult.1)).1
    have hfile : files[n]? = some r.file := by
      rw [← hsound.names]
      simp [hresult.1]
    rw [(formatFilesInTurns_eq_ok hsteady hothers).1, List.getElem?_map, hfile, Option.map_some,
      ← hsame]

end Batch

/-- A world with two files, one of them in a workspace folder with a formatter.  Another formatter
is where the configured path leads when its token is taken literally. -/
def literalWorld : World where
  files := ⟨[(["a"], .directory), (["a", "sqlfmt"], .program 0 0o755),
    (["a", "x.sql"], .file [0x61] 0o644), ([Placeholder.token "workspaceFolder"], .directory),
    ([Placeholder.token "workspaceFolder", "sqlfmt"], .program 0 0o755),
    (["y.sql"], .file [0x61] 0o644)]⟩
  programs := fun _ _ tree => some ⟨0, [], [], tree⟩
  environment := []
  directory := []
  log := []
  runs := []

/-- The formatter of the workspace folder, with no limits. -/
def inFolder : Formatter where
  settings := { Settings.default with
    path := some (Placeholder.token "workspaceFolder" ++ "/sqlfmt")
    probeLimit := none }
  workspace := ⟨none, [⟨"a", ["a"]⟩]⟩
  interpreters := .given []
  environment := none
  tool := .sqlfmt

/-- Leniently both files are changed, each by a formatter; strictly the file without a folder fails
and the other one is changed all the same. -/
theorem strict_fails_early_and_only_adds_failures_literal :
    let files := ["/a/x.sql", "/y.sql"].map Path.parse
    (∃ tokens records, (Request.make (inFolder.withStrict true) .quiet (.text "a" none)).outcome
      literalWorld = (.error (.configuration (.unresolved tokens)), literalWorld.logging records)) ∧
    (Request.make (inFolder.withStrict true) .quiet (.text "a" (some "/a/x.sql"))).outcome
        literalWorld =
      (Request.make (inFolder.withStrict false) .quiet (.text "a" (some "/a/x.sql"))).outcome
        literalWorld ∧
    ∃ results later answers after,
      ((inFolder.withStrict true).formatFilesInTurns files (turnsInOrder 2) true .quiet).outcome
        literalWorld = (.ok (some results), later) ∧
      ((inFolder.withStrict false).formatFilesInTurns files (turnsInOrder 2) true .quiet).outcome
        literalWorld = (.ok (some answers), after) ∧
      (∀ r ∈ results, (∃ problem, r.outcome = .error (.configuration problem)) ↔
        r.file = Path.parse "/y.sql") ∧
      answers[0]? = results[0]? ∧ answers.map (·.outcome.toOption) = [some true, some true] := by
  intro files
  obtain ⟨hrequests, hbatches⟩ :=
    strict_fails_early_and_only_adds_failures inFolder literalWorld .quiet
  refine ⟨(hrequests (.text "a" none)).1 none ⟨_, rfl⟩ (by decide +kernel), ?_, ?_⟩
  · refine (hrequests (.text "a" (some "/a/x.sql"))).2 ?_
    rintro folder ⟨go, hgo⟩
    have hfolder : (((Request.text "a" (some "/a/x.sql")).opening inFolder .quiet).outcome
        literalWorld).1.map Prod.fst = .ok (some ⟨"a", ["a"]⟩) := by decide +kernel
    rw [hgo] at hfolder
    obtain rfl : folder = some ⟨"a", ["a"]⟩ := Except.ok.inj hfolder
    decide +kernel
  · have hsteady : (inFolder.withStrict false).SteadyFor literalWorld files :=
      steadyFor_of_files (fun _ _ _ _ => rfl) (by decide +kernel) _
    have hheld : ∀ file ∈ files,
        inFolder.HeldBack literalWorld file ↔ file = Path.parse "/y.sql" := by decide +kernel
    have hstrict : (((inFolder.withStrict true).formatFilesInTurns files (turnsInOrder 2) true
        .quiet).outcome literalWorld).1.toOption.join.isSome = true := by decide +kernel
    have hlenient : (((inFolder.withStrict false).formatFilesInTurns files (turnsInOrder 2) true
        .quiet).outcome literalWorld).1.toOption.join.map
          (fun answers => answers.map (·.outcome.toOption)) = some [some true, some true] := by
      decide +kernel
    rcases hresults : ((inFolder.withStrict true).formatFilesInTurns files (turnsInOrder 2) true
      .quiet).outcome literalWorld with ⟨failure | _ | results, later⟩
    · rw [hresults] at hstrict
      cases hstrict
    · rw [hresults] at hstrict
      cases hstrict
    · rcases hanswers : ((inFolder.withStrict false).formatFilesInTurns files (turnsInOrder 2) true
        .quiet).outcome literalWorld with ⟨failure | _ | answers, after⟩
      · rw [hanswers] at hlenient
        cases hlenient
      · rw [hanswers] at hlenient
        cases hlenient
      · rw [hanswers] at hlenient
        obtain ⟨hnames, hrefused, -, -, hsame⟩ := (hbatches files true).2 _ _ _ hresults
        refine ⟨results, later, answers, after, rfl, rfl, ?_, ?_, Option.some.inj hlenient⟩
        · intro r hr
          rw [hrefused r hr]
          exact hheld r.file (hnames ▸ List.mem_map_of_mem hr)
        · obtain ⟨r, hr, hfile⟩ : ∃ r, results[0]? = some r ∧ r.file = Path.parse "/a/x.sql" := by
            rw [← Option.map_eq_some_iff, ← List.getElem?_map, hnames]
            rfl
          rw [hr]
          refine hsame hsteady _ _ _ hanswers 0 r hr ?_
          rw [hfile, hheld _ (by simp [files])]
          decide +kernel

end Formatter

end FormatLauncher
