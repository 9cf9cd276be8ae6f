/-
# Strict and lenient requests

Strictness decides what becomes of a token that expanding leaves in the arguments or in the
configured path.  A lenient request warns of it and goes on; a strict one fails before anything is
started.  Where no token is left, the two are the same.  Every request opens by reading, to find the
folder it is for, and is then prepared for that folder, so what is said of preparing holds of all
requests.
-/

import FormatLauncher.Proofs.Leftovers
import FormatLauncher.Proofs.Requests

namespace FormatLauncher

open Action

/-! ## Tokens in a query -/

namespace Placeholder

variable {values : List String} {context : Context} {interpreter : Option (List String)}

/-- Where no token is left, expanding is strict or lenient alike. -/
theorem resolve_of_settled (h : ¬LeavesToken values context interpreter) (strict : Bool) :
    resolve values context interpreter strict = resolve values context interpreter false :=
  Expansion.settle_of_known fun _ => leftovers_eq_nil_iff.mpr h

/-- Where a token is left, expanding strictly fails. -/
theorem outcome_resolve_of_token (h : LeavesToken values context interpreter) (w : World) :
    ∃ tokens, (resolve values context interpreter true).outcome w =
      (.error (.configuration (.unresolved tokens)), w) := by
  have hleft : (expandAll values context interpreter).leftovers ≠ [] := fun hnil =>
    leftovers_eq_nil_iff.mp hnil h
  exact ⟨_, show _ = (_, _) by rw [resolve, Expansion.settle, if_neg hleft]; rfl⟩

end Placeholder

namespace Locator

/-- The query, strict or lenient. -/
def Query.withStrict (q : Query) (strict : Bool) : Query := { q with strict }

/-- Expanding the configured path leaves a token. -/
def Query.LeavesToken (q : Query) : Prop :=
  ∃ path ∈ q.configured, path ≠ "" ∧ Placeholder.LeavesToken [path] q.context q.interpreter

instance (q : Query) : Decidable q.LeavesToken :=
  inferInstanceAs (Decidable (∃ path ∈ q.configured, path ≠ "" ∧
    Placeholder.LeavesToken [path] q.context q.interpreter))

variable {q : Query}

/-- Where no token is left in the path, locating is strict or lenient alike. -/
theorem locate_of_settled (h : ¬q.LeavesToken) (strict : Bool) (limit : Option Seconds)
    (schedule : Schedule) :
    locate (q.withStrict strict) limit schedule = locate (q.withStrict false) limit schedule := by
  have hcandidate : candidate q.configured q.context q.interpreter q.toolOrUsual strict =
      candidate q.configured q.context q.interpreter q.toolOrUsual false := by
    rw [candidate, candidate]
    cases hpath : q.configured.filter (· ≠ "") with
    | none => rfl
    | some path =>
        obtain ⟨hconfigured, hne⟩ := Option.filter_eq_some_iff.mp hpath
        have hsettled : ¬Placeholder.LeavesToken [path] q.context q.interpreter := fun htoken =>
          h ⟨path, hconfigured, by simpa using hne, htoken⟩
        dsimp only
        rw [Placeholder.resolve_of_settled hsettled strict]
  have hinspect : inspect (q.withStrict strict) = inspect (q.withStrict false) :=
    congrArg (· >>= check .slash) hcandidate
  rw [locate, locate, hinspect]
  rfl

/-- Where a token is left in the path, locating strictly fails before anything is asked for its
version. -/
theorem outcome_locate_of_token (h : q.LeavesToken) (limit : Option Seconds) (schedule : Schedule)
    (w : World) :
    ∃ tokens, (locate (q.withStrict true) limit schedule).outcome w =
      (.error (.configuration (.unresolved tokens)), w) := by
  obtain ⟨path, hpath, hne, htoken⟩ := h
  obtain ⟨tokens, hresolve⟩ := Placeholder.outcome_resolve_of_token htoken w
  refine ⟨tokens, ?_⟩
  have hconfigured : q.configured.filter (· ≠ "") = some path :=
    Option.filter_eq_some_iff.mpr ⟨hpath, by simpa using hne⟩
  have hcandidate : (candidate q.configured q.context q.interpreter q.toolOrUsual true).outcome w =
      (.error (.configuration (.unresolved tokens)), w) := by
    rw [candidate, hconfigured]
    exact outcome_bind_of_error hresolve
  exact outcome_bind_of_error (outcome_bind_of_error hcandidate)

end Locator

namespace Formatter

/-- The formatter, strict or lenient. -/
def withStrict (f : Formatter) (strict : Bool) : Formatter :=
  { f with settings := { f.settings with strict } }

/-- For a folder, expanding the arguments or the configured path leaves a token. -/
def LeavesToken (f : Formatter) (w : World) (folder : Option Folder) : Prop :=
  ∃ context interpreter, ((f.surroundings folder).outcome w).1 = .ok (context, interpreter) ∧
    (Placeholder.LeavesToken f.settings.arguments context interpreter ∨
      (f.query context interpreter false).LeavesToken)

theorem leavesToken_iff {f : Formatter} {w : World} {folder : Option Folder}
    {context : Placeholder.Context} {interpreter : Option (List String)}
    (h : ((f.surroundings folder).outcome w).1 = .ok (context, interpreter)) :
    f.LeavesToken w folder ↔ Placeholder.LeavesToken f.settings.arguments context interpreter ∨
      (f.query context interpreter false).LeavesToken := by
  constructor
  · rintro ⟨context', interpreter', hsame, htoken⟩
    obtain ⟨rfl, rfl⟩ : context = context' ∧ interpreter = interpreter' := by
      simpa [h] using hsame
    exact htoken
  · exact fun htoken => ⟨context, interpreter, h, htoken⟩

instance (f : Formatter) (w : World) (folder : Option Folder) :
    Decidable (f.LeavesToken w folder) :=
  match h : ((f.surroundings folder).outcome w).1 with
  | .ok _ => decidable_of_iff _ (leavesToken_iff h).symm
  | .error _ => isFalse fun ⟨_, _, hsurroundings, _⟩ => nomatch h.symm.trans hsurroundings

/-! ## Preparing -/

section Prepare

variable {f : Formatter} {w v : World} {folder : Option Folder}

/-- Preparing, in the steps that strictness tells apart. -/
theorem prepare_eq (f : Formatter) (folder : Option Folder) (schedule : Schedule) :
    f.prepare folder schedule = f.surroundings folder >>= fun (context, interpreter) =>
      Placeholder.resolve f.settings.arguments context interpreter f.settings.strict >>=
        fun arguments =>
          Locator.locate (f.query context interpreter f.settings.strict) f.probeLimit schedule >>=
            f.invocation ⟨folder, arguments, f.query context interpreter f.settings.strict⟩ := by
  simp only [prepare, plan, bind_assoc, pure_bind]

/-- Strict or lenient, a request knows the same at every moment of a scene. -/
theorem outcome_surroundings (f : Formatter) (folder : Option Folder) (hscene : v.scene = w.scene)
    (strict : Bool) :
    ∃ records, ((f.withStrict strict).surroundings folder).outcome v =
      (((f.surroundings folder).outcome w).1, v.logging records) := by
  obtain ⟨records, hv⟩ := (f.reads_surroundings folder).outcome_eq v
  rw [((f.reads_surroundings folder).ignoresHistory v w hscene).1] at hv
  exact ⟨records, hv⟩

/-- A strict request for a folder fails when a token is left, and starts nothing. -/
theorem outcome_prepare_of_token (h : f.LeavesToken w folder) (hscene : v.scene = w.scene)
    (schedule : Schedule) :
    ∃ tokens records, ((f.withStrict true).prepare folder schedule).outcome v =
      (.error (.configuration (.unresolved tokens)), v.logging records) := by
  obtain ⟨context, interpreter, hknown, htoken⟩ := h
  obtain ⟨first, hopen⟩ := f.outcome_surroundings folder hscene true
  rw [hknown] at hopen
  rw [prepare_eq, outcome_bind_of_ok hopen]
  by_cases harguments : Placeholder.LeavesToken f.settings.arguments context interpreter
  · obtain ⟨tokens, hresolve⟩ := Placeholder.outcome_resolve_of_token harguments (v.logging first)
    exact ⟨tokens, first, outcome_bind_of_error hresolve⟩
  · have hanswers : (Placeholder.resolve f.settings.arguments context interpreter true).Answers _ :=
      Placeholder.Expansion.answers_settle fun _ => Placeholder.leftovers_eq_nil_iff.mpr harguments
    obtain ⟨second, hresolve⟩ := hanswers (v.logging first)
    obtain ⟨tokens, hlocate⟩ := Locator.outcome_locate_of_token
      (htoken.resolve_left harguments) f.probeLimit schedule ((v.logging first).logging second)
    refine ⟨tokens, first ++ second, ?_⟩
    rw [← World.logging_logging]
    exact (outcome_bind_of_ok hresolve).trans (outcome_bind_of_error hlocate)

/-- Where no token is left for a folder, preparing is strict or lenient alike. -/
theorem outcome_prepare_of_settled (h : ¬f.LeavesToken w folder) (hscene : v.scene = w.scene)
    (schedule : Schedule) :
    ((f.withStrict true).prepare folder schedule).outcome v =
      ((f.withStrict false).prepare folder schedule).outcome v := by
  have hsurroundings : (f.withStrict true).surroundings folder =
    (f.withStrict false).surroundings folder := rfl
  obtain ⟨records, hopen⟩ := f.outcome_surroundings folder hscene false
  rw [prepare_eq, prepare_eq, hsurroundings]
  cases hknown : ((f.surroundings folder).outcome w).1 with
  | error failure =>
      rw [hknown] at hopen
      rw [outcome_bind_of_error hopen, outcome_bind_of_error hopen]
  | ok known =>
      rcases known with ⟨context, interpreter⟩
      rw [leavesToken_iff hknown, not_or] at h
      rw [hknown] at hopen
      rw [outcome_bind_of_ok hopen, outcome_bind_of_ok hopen]
      have hresolve := Placeholder.resolve_of_settled h.1 true
      have hlocate := Locator.locate_of_settled h.2 true f.probeLimit schedule
      exact congrArg (Action.outcome · (v.logging records)) (congrArg₂ (· >>= ·) hresolve
        (funext fun arguments => congrArg (· >>= f.invocation _) hlocate))

end Prepare

/-! ## Requests -/

/-- What a request answers with. -/
def Request.Reply : Request → Type
  | .text _ _ => String
  | .file _ _ => Bool
  | .inPlace _ | .workspace _ => Execution.Output

/-- Make a request. -/
def Request.make (f : Formatter) (schedule : Schedule) : (request : Request) → Action request.Reply
  | .text before document => f.formatText before document schedule
  | .file path write => f.formatFile path write schedule
  | .inPlace files => f.formatInPlace files schedule
  | .workspace asked => f.formatWorkspace asked schedule

/-- What a request does before it is prepared: it finds its folder, and what it will do with the
invocation. -/
def Request.opening (f : Formatter) (schedule : Schedule) :
    (request : Request) → Action (Option Folder × (Invocation → Action request.Reply))
  | .text before document => do
    announce (document.getD inputName)
    let folder ← f.folderFor (document.map Path.parse)
    return (folder, fun invocation =>
      Execution.asFilter invocation.command invocation.arguments before
        (f.terms invocation schedule))
  | .file path write => do
    let before ← Action.ofExcept (readText (← get) path)
    announce path.text
    let folder ← f.folderFor (some (Path.parse path.text))
    return (folder, fun invocation => do
      let after ← Execution.asFilter invocation.command invocation.arguments before
        (f.terms invocation schedule)
      writeBack path before after write)
  | .inPlace files => do
    match files with
    | [] => throw (.configuration .noPaths)
    | first :: _ =>
      for file in files do
        announce file.text
      let folder ← f.folderFor (some first)
      return (folder, fun invocation =>
        Execution.inPlace invocation.command invocation.arguments (files.map Path.text)
          (f.terms invocation schedule))
  | .workspace asked => do
    let root ← Action.ofExcept (f.workspaceRoot (← get) asked)
    let found ← f.folderFor (some (Path.ofLocation root))
    let folder := rootFolder root found
    Action.say .info ("Formatting \"" ++ folder.name ++ "\" workspace")
    return (some folder, fun invocation =>
      Execution.inPlace invocation.command invocation.arguments [folder.place.text]
        (f.terms invocation schedule))

/-- A request opens, is prepared for its folder, and goes on with the invocation. -/
theorem Request.make_eq (f : Formatter) (schedule : Schedule) (request : Request) :
    request.make f schedule = request.opening f schedule >>= fun (folder, go) =>
      f.prepare folder schedule >>= go := by
  cases request with
  | text before document =>
      simp only [make, opening, formatText, bind_assoc, pure_bind]
      rfl
  | file path write =>
      simp only [make, opening, formatFile, formatText, bind_assoc, pure_bind]
      rfl
  | inPlace files =>
      cases files with
      | nil => rfl
      | cons first rest =>
          simp only [make, opening, formatInPlace, bind_assoc, pure_bind]
          rfl
  | workspace asked =>
      simp only [make, opening, formatWorkspace, bind_assoc, pure_bind]
      rfl

theorem Request.reads_opening (f : Formatter) (schedule : Schedule) (request : Request) :
    (request.opening f schedule).Reads := by
  cases request with
  | text before document =>
      exact (reads_announce _).bind fun _ => (f.reads_folderFor _).bind fun _ => reads_pure _
  | file path write =>
      refine reads_get_bind (fun _ => rfl) fun w => (reads_ofExcept _).bind fun _ => ?_
      exact (reads_announce _).bind fun _ => (f.reads_folderFor _).bind fun _ => reads_pure _
  | inPlace files =>
      cases files with
      | nil => exact reads_throw _
      | cons first rest =>
          exact (reads_announceAll (first :: rest)).bind fun _ =>
            (f.reads_folderFor _).bind fun _ => reads_pure _
  | workspace asked =>
      refine reads_get_bind (fun _ => rfl) fun w => (reads_ofExcept _).bind fun _ => ?_
      exact (f.reads_folderFor _).bind fun _ => (reads_say _ _).bind fun _ => reads_pure _

/-- The request gets as far as being prepared for a folder. -/
def Request.Reaches (f : Formatter) (schedule : Schedule) (w : World) (request : Request)
    (folder : Option Folder) : Prop :=
  ∃ go, ((request.opening f schedule).outcome w).1 = .ok (folder, go)

section Requests

variable {f : Formatter} {schedule : Schedule} {w : World} {request : Request}

/-- Strict or lenient, a request opens alike. -/
theorem Request.opening_withStrict (f : Formatter) (strict : Bool) (schedule : Schedule)
    (request : Request) :
    request.opening (f.withStrict strict) schedule = request.opening f schedule := by
  cases request <;> rfl

/-- A strict request that is prepared for a folder for which a token is left fails, and starts
nothing. -/
theorem Request.outcome_make_of_token {folder : Option Folder}
    (hreaches : request.Reaches f schedule w folder) (htoken : f.LeavesToken w folder) :
    ∃ tokens records, (request.make (f.withStrict true) schedule).outcome w =
      (.error (.configuration (.unresolved tokens)), w.logging records) := by
  obtain ⟨go, hgo⟩ := hreaches
  obtain ⟨first, hopen⟩ := (Request.reads_opening f schedule request).outcome_eq w
  rw [hgo] at hopen
  obtain ⟨tokens, second, hprepare⟩ :=
    outcome_prepare_of_token htoken (v := w.logging first) (by simp) schedule
  refine ⟨tokens, first ++ second, ?_⟩
  rw [Request.make_eq, Request.opening_withStrict, outcome_bind_of_ok hopen,
    outcome_bind_of_error hprepare, World.logging_logging]

/-- A request for which no token is left is strict or lenient alike. -/
theorem Request.outcome_make_of_settled
    (hsettled : ∀ folder, request.Reaches f schedule w folder → ¬f.LeavesToken w folder) :
    (request.make (f.withStrict true) schedule).outcome w =
      (request.make (f.withStrict false) schedule).outcome w := by
  obtain ⟨records, hopen⟩ := (Request.reads_opening f schedule request).outcome_eq w
  rw [Request.make_eq, Request.make_eq, Request.opening_withStrict, Request.opening_withStrict]
  cases hopened : ((request.opening f schedule).outcome w).1 with
  | error failure =>
      rw [hopened] at hopen
      rw [outcome_bind_of_error hopen, outcome_bind_of_error hopen]
  | ok opened =>
      rcases opened with ⟨folder, go⟩
      rw [hopened] at hopen
      rw [outcome_bind_of_ok hopen, outcome_bind_of_ok hopen, outcome_bind, outcome_bind,
        outcome_prepare_of_settled (hsettled folder ⟨go, hopened⟩) (by simp) schedule]

end Requests

end Formatter

end FormatLauncher
