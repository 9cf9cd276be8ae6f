/-
# Whether a run ends for its reason

What a run is answered depends on the event as it stands when the killed program has ended, not on
what ended the first wait.  One invariant says how far a run can have come: every event keeps it, so
every course of events does.  At the end it says exactly when the answer fits the reason.
-/

import FormatLauncher.Course
import FormatLauncher.Proofs.Running
import Mathlib.Algebra.Group.Int.Defs
import Mathlib.Data.List.Basic

namespace FormatLauncher

namespace Course

@[simp]
theorem run_nil (c : Course) : c.run [] = c := rfl

@[simp]
theorem run_cons (c : Course) (event : Event) (rest : List Event) :
    c.run (event :: rest) = (c.step event).run rest := rfl

/-! ## What every run keeps -/

/-- Something other than the output has ended the first wait. -/
def HasReason (c : Course) : Prop :=
  c.interrupted = true ∨ c.expired = true ∨ c.noticed = true

/-- What can have happened to a run at a stage. -/
inductive Reaches (c : Course) : Stage → Prop
  | refused (hended : c.ended = false) (hsaw : c.sawOutput = false) : c.Reaches .refused
  | waiting (hkilled : c.killed = false) (hsaw : c.sawOutput = false)
      (hreaping : c.interruptedReaping = false) (hdraining : c.interruptedDraining = false) :
      c.Reaches .waiting
  | reaping (hsaw : c.sawOutput = false) (hdraining : c.interruptedDraining = false)
      (hreason : c.HasReason) : c.Reaches .reaping
  | draining (hended : c.ended = true) (hsaw : c.sawOutput = false)
      (hreaping : c.interruptedReaping = false) (hreason : c.HasReason) : c.Reaches .draining
  | output (hended : c.ended = true) (hkilled : c.killed = false) (hsaw : c.sawOutput = true)
      (hinterrupted : c.interrupted = false) (hreaping : c.interruptedReaping = false)
      (hdraining : c.interruptedDraining = false) : c.Reaches (.over c.watch)
  | abandoned (hended : c.interruptedReaping = true ∨ c.ended = true)
      (hsaw : c.sawOutput = false) (hreason : c.HasReason) : c.Reaches (.over c.watch)

/-- What can be said of a run at every stage. -/
structure Sound (c : Course) : Prop where
  /-- A limit that was reached was given. -/
  limited : c.expired = true → c.limit.isSome = true
  /-- The output is complete only when the program has ended. -/
  readEnded : c.read = true → c.ended = true
  reaches : c.Reaches c.stage

theorem sound_start (limit : Option Seconds) : (start limit).Sound where
  limited := by simp [start]
  readEnded := by simp [start]
  reaches := by
    change (start limit).Reaches (if _ then _ else _)
    split
    · exact .refused rfl rfl
    · exact .waiting rfl rfl rfl rfl

variable {c : Course}

/-- An event that leaves the stage keeps what can have happened, if it takes back neither the end of
the program nor the reason. -/
theorem Reaches.keep {later : Course} {stage : Stage} (h : c.Reaches stage)
    (hstage : ∀ watch, stage ≠ .refused ∧ stage ≠ .over watch)
    (hsame : (later.killed, later.sawOutput, later.interruptedReaping, later.interruptedDraining) =
      (c.killed, c.sawOutput, c.interruptedReaping, c.interruptedDraining))
    (hended : c.ended = true → later.ended = true) (hreason : c.HasReason → later.HasReason) :
    later.Reaches stage := by
  simp only [Prod.mk.injEq] at hsame
  obtain ⟨hk, hs, hr, hd⟩ := hsame
  cases h with
  | refused => exact absurd rfl (hstage ⟨false, false, false⟩).1
  | waiting hkilled hsaw hreaping hdraining =>
      exact .waiting (hk.trans hkilled) (hs.trans hsaw) (hr.trans hreaping) (hd.trans hdraining)
  | reaping hsaw hdraining h => exact .reaping (hs.trans hsaw) (hd.trans hdraining) (hreason h)
  | draining hdone hsaw hreaping h =>
      exact .draining (hended hdone) (hs.trans hsaw) (hr.trans hreaping) (hreason h)
  | output => exact absurd rfl (hstage _).2
  | abandoned => exact absurd rfl (hstage _).2

namespace Sound

/-- Calling off the reading keeps a run sound when the program has ended. -/
theorem drain (h : c.Sound) (hended : c.ended = true) (hsaw : c.sawOutput = false)
    (hreaping : c.interruptedReaping = false) (hreason : c.HasReason) : c.drain.Sound := by
  unfold Course.drain
  split
  · exact ⟨h.limited, h.readEnded, .abandoned (.inr hended) hsaw hreason⟩
  · exact ⟨h.limited, h.readEnded, .draining hended hsaw hreaping hreason⟩

/-- Killing the program keeps a run sound during the first wait. -/
theorem kill (h : c.Sound) (hsaw : c.sawOutput = false) (hreaping : c.interruptedReaping = false)
    (hdraining : c.interruptedDraining = false) (hreason : c.HasReason) : c.kill.Sound := by
  unfold Course.kill
  split
  · next hended => exact h.drain hended hsaw hreaping hreason
  · exact ⟨h.limited, h.readEnded, .reaping hsaw hdraining hreason⟩

/-- Going on keeps a run sound. -/
theorem goOn (h : c.Sound) : c.goOn.Sound := by
  have hreaches := h.reaches
  unfold Course.goOn
  cases hstage : c.stage <;> rw [hstage] at hreaches <;> dsimp only
  case waiting =>
    obtain _ | ⟨hkilled, hsaw, hreaping, hdraining⟩ := hreaches
    split
    · next hinterrupted => exact h.kill hsaw hreaping hdraining (.inl hinterrupted)
    · next hinterrupted =>
        split
        · next hread =>
            have hfree : c.interrupted = false := by simpa using hinterrupted
            exact ⟨h.limited, h.readEnded,
              .output (h.readEnded hread) hkilled rfl hfree hreaping hdraining⟩
        · split
          · next hreason =>
              exact h.kill hsaw hreaping hdraining (.inr (by simpa using hreason))
          · exact h
  case reaping =>
    obtain _ | _ | ⟨hsaw, hdraining, hreason⟩ := hreaches
    split
    · next hreaping =>
        exact ⟨h.limited, h.readEnded, .abandoned (.inl hreaping) hsaw hreason⟩
    · next hreaping =>
        split
        · next hended => exact h.drain hended hsaw (by simpa using hreaping) hreason
        · exact h
  case draining =>
    obtain _ | _ | _ | ⟨hended, hsaw, hreaping, hreason⟩ := hreaches
    exact ⟨h.limited, h.readEnded, .abandoned (.inr hended) hsaw hreason⟩
  all_goals exact h

/-- Cancelling the waiter keeps a run sound. -/
theorem interrupt (h : c.Sound) (hover : c.isOver = false) : c.interrupt.Sound := by
  refine ⟨h.limited, h.readEnded, ?_⟩
  change c.interrupt.Reaches c.stage
  have hreaches := h.reaches
  have hreason : c.HasReason → c.interrupt.HasReason :=
    Or.imp_left fun hinterrupted => by simp [Course.interrupt, hinterrupted]
  generalize hstage : c.stage = stage at hreaches
  cases hreaches with
  | waiting hkilled hsaw hreaping hdraining =>
      exact .waiting hkilled hsaw (by simp [Course.interrupt, hreaping, hstage])
        (by simp [Course.interrupt, hdraining, hstage])
  | reaping hsaw hdraining h =>
      exact .reaping hsaw (by simp [Course.interrupt, hdraining, hstage]) (hreason h)
  | draining hended hsaw hreaping h =>
      exact .draining hended hsaw (by simp [Course.interrupt, hreaping, hstage]) (hreason h)
  | _ => simp [isOver, hstage] at hover

/-- Every event keeps a run sound. -/
theorem step (h : c.Sound) (event : Event) : (c.step event).Sound := by
  unfold Course.step
  split
  · exact h
  · next hover =>
      have hstage : ∀ watch, c.stage ≠ .refused ∧ c.stage ≠ .over watch := fun watch =>
        ⟨fun hstage => hover (by simp [isOver, hstage]),
          fun hstage => hover (by simp [isOver, hstage])⟩
      cases event with
      | exit => exact ⟨h.limited, fun _ => rfl, h.reaches.keep hstage rfl (fun _ => rfl) id⟩
      | read =>
          dsimp only
          split
          · next hread =>
              have hended : c.ended = true := (Bool.and_eq_true_iff.mp hread).1
              exact ⟨h.limited, fun _ => hended, h.reaches.keep hstage rfl id id⟩
          · exact h
      | expire =>
          dsimp only
          split
          · next hexpires =>
              have hlimit : c.limit.isSome = true :=
                Option.isSome_of_isSome_bind (Bool.and_eq_true_iff.mp hexpires).2
              exact ⟨fun _ => hlimit, h.readEnded,
                h.reaches.keep hstage rfl id (Or.imp_right fun _ => .inl rfl)⟩
          · exact h
      | request => exact ⟨h.limited, h.readEnded, h.reaches.keep hstage rfl id id⟩
      | withdraw => exact ⟨h.limited, h.readEnded, h.reaches.keep hstage rfl id id⟩
      | notice =>
          dsimp only
          split
          · exact ⟨h.limited, h.readEnded,
              h.reaches.keep hstage rfl id (Or.imp_right fun _ => .inr rfl)⟩
          · exact h
      | interrupt => exact h.interrupt (by simpa using hover)
      | resume => exact h.goOn

/-- So every course of events does. -/
theorem run (h : c.Sound) (events : List Event) : (c.run events).Sound := by
  induction events generalizing c with
  | nil => exact h
  | cons event rest ih => exact ih (h.step event)

end Sound

/-! ## Answers and reasons -/

/-- The waiter was cancelled at some time. -/
def WasCancelled (c : Course) : Prop :=
  c.interrupted = true ∨ c.interruptedReaping = true ∨ c.interruptedDraining = true

instance (c : Course) : Decidable c.WasCancelled := inferInstanceAs (Decidable (_ ∨ _ ∨ _))

/-- The answer of a run fits what has ended it, and the program has ended before.  The run gives its
output exactly if the first wait saw it.  Otherwise it is answered with the cancellation of the
waiter exactly if there was one, else with the request to cancel exactly if the first wait was told
of it, else with the limit exactly if only that was reached.  There is no other answer, and no
output of a killed program. -/
structure EndsForItsReason (c : Course) (command : String) : Prop where
  output : c.answer? command = some (.ok ()) ↔ c.sawOutput = true
  waiterCancelled : c.sawOutput = false →
    (c.answer? command = some (.error .waiterCancelled) ↔ c.WasCancelled)
  cancelled : c.sawOutput = false → ¬c.WasCancelled →
    (c.answer? command = some (.error (.cancelled command)) ↔ c.noticed = true)
  timedOut : c.sawOutput = false → ¬c.WasCancelled →
    ((∃ limit ∈ c.limit, c.answer? command = some (.error (.timedOut command limit))) ↔
      c.noticed = false ∧ c.expired = true)
  other : c.answer? command = some (.ok ()) ∨
    c.answer? command = some (.error .waiterCancelled) ∨
    c.answer? command = some (.error (.cancelled command)) ∨
    ∃ limit ∈ c.limit, c.answer? command = some (.error (.timedOut command limit))
  ended : c.ended = true
  alive : c.answer? command = some (.ok ()) → c.killed = false

section Answer

variable (command : String) (hstage : c.stage = .over c.watch)

include hstage

theorem answer?_of_sawOutput (hsaw : c.sawOutput = true) :
    c.answer? command = some (.ok ()) := by
  simp [answer?, hstage, watch, Watch.ending, hsaw]

variable (hsaw : c.sawOutput = false)

include hsaw

theorem answer?_of_interrupted (hwaiter : c.interrupted = true ∨ c.interruptedReaping = true) :
    c.answer? command = some (.error .waiterCancelled) := by
  simp [answer?, hstage, watch, Watch.ending, hsaw, hwaiter]

variable (hwaiter : ¬(c.interrupted = true ∨ c.interruptedReaping = true))

include hwaiter

/-- A run that neither has output nor was cancelled in time is answered by the event as it stands
and, if that is not set, by the limit. -/
theorem answer?_cases :
    c.requested = true ∧ c.answer? command = some (.error (.cancelled command)) ∨
      c.requested = false ∧
        ((∃ limit ∈ c.limit, c.answer? command = some (.error (.timedOut command limit))) ∨
          c.limit = none ∧ c.answer? command = some (.error .wrongKind)) := by
  have hwatch : c.watch = ⟨false, false, c.requested⟩ := by
    simpa [watch, hsaw] using hwaiter
  cases hrequested : c.requested with
  | true => simp [answer?, hstage, hwatch, Watch.ending, hrequested]
  | false =>
      cases hlimit : c.limit <;>
        simp [answer?, hstage, hwatch, Watch.ending, hrequested, hlimit]

end Answer

/-- A run whose wait cannot begin is not over for a reason: its program is left running. -/
theorem not_endsForItsReason_of_refused {command : String} (h : c.Sound)
    (hstage : c.stage = .refused) : ¬c.EndsForItsReason command := by
  intro hends
  have hreaches := h.reaches
  rw [hstage] at hreaches
  obtain ⟨hended, -⟩ := hreaches
  simp [hends.ended] at hended

/-- A run that gives its output ends for its reason. -/
theorem endsForItsReason_of_sawOutput {command : String} (hstage : c.stage = .over c.watch)
    (hended : c.ended = true) (hkilled : c.killed = false) (hsaw : c.sawOutput = true) :
    c.EndsForItsReason command := by
  have hanswer := answer?_of_sawOutput command hstage hsaw
  exact
    { output := iff_of_true hanswer hsaw
      waiterCancelled := fun h => by simp [hsaw] at h
      cancelled := fun h => by simp [hsaw] at h
      timedOut := fun h => by simp [hsaw] at h
      other := .inl hanswer
      ended := hended
      alive := fun _ => hkilled }

section Abandoned

variable {command : String} (hstage : c.stage = .over c.watch) (hsaw : c.sawOutput = false)

include hstage hsaw

/-- A run whose waiter was cancelled in time ends for its reason exactly if its program has
ended. -/
theorem endsForItsReason_iff_ended (hwaiter : c.interrupted = true ∨ c.interruptedReaping = true) :
    c.EndsForItsReason command ↔ c.ended = true := by
  have hanswer := answer?_of_interrupted command hstage hsaw hwaiter
  have hcancelled : c.WasCancelled := hwaiter.imp_right .inl
  refine ⟨EndsForItsReason.ended, fun hended => ?_⟩
  exact
    { output := by simp [hanswer, hsaw]
      waiterCancelled := fun _ => iff_of_true hanswer hcancelled
      cancelled := fun _ hnot => absurd hcancelled hnot
      timedOut := fun _ hnot => absurd hcancelled hnot
      other := .inr (.inl hanswer)
      ended := hended
      alive := by simp [hanswer] }

variable (hwaiter : ¬(c.interrupted = true ∨ c.interruptedReaping = true))

include hwaiter

/-- A waiter that is cancelled only while it calls off the reading is not told so. -/
theorem not_endsForItsReason_of_draining (hdraining : c.interruptedDraining = true) :
    ¬c.EndsForItsReason command := by
  intro hends
  have hanswer := (hends.waiterCancelled hsaw).mpr (.inr (.inr hdraining))
  rcases answer?_cases command hstage hsaw hwaiter with
    ⟨-, hother⟩ | ⟨-, ⟨limit, -, hother⟩ | ⟨-, hother⟩⟩ <;> simp [hother] at hanswer

/-- Without a cancellation of the waiter a run ends for its reason exactly if the event is at its
end what it was to the first wait. -/
theorem endsForItsReason_iff_noticed (h : c.Sound) (hreason : c.HasReason) (hended : c.ended = true)
    (hnot : ¬c.WasCancelled) : c.EndsForItsReason command ↔ c.noticed = c.requested := by
  have hexpired : c.noticed = false → c.expired = true := fun hnoticed => by
    rcases hreason with hinterrupted | hexpired | hsame
    · exact absurd (.inl hinterrupted) hwaiter
    · exact hexpired
    · simp [hnoticed] at hsame
  rcases answer?_cases command hstage hsaw hwaiter with
    ⟨hrequested, hanswer⟩ | ⟨hrequested, ⟨limit, hlimit, hanswer⟩ | ⟨hlimit, hanswer⟩⟩
  · refine ⟨fun hends => ((hends.cancelled hsaw hnot).mp hanswer).trans hrequested.symm,
      fun hsame => ?_⟩
    exact
      { output := by simp [hanswer, hsaw]
        waiterCancelled := fun _ => iff_of_false (by simp [hanswer]) hnot
        cancelled := fun _ _ => iff_of_true hanswer (hsame.trans hrequested)
        timedOut := fun _ _ => by simp [hanswer, hsame, hrequested]
        other := .inr (.inr (.inl hanswer))
        ended := hended
        alive := by simp [hanswer] }
  · refine ⟨fun hends => ?_, fun hsame => ?_⟩
    · cases hnoticed : c.noticed with
      | false => exact hrequested.symm
      | true => simpa [hanswer] using (hends.cancelled hsaw hnot).mpr hnoticed
    · have hnoticed : c.noticed = false := hsame.trans hrequested
      exact
        { output := by simp [hanswer, hsaw]
          waiterCancelled := fun _ => iff_of_false (by simp [hanswer]) hnot
          cancelled := fun _ _ => by simp [hanswer, hnoticed]
          timedOut := fun _ _ => iff_of_true ⟨limit, hlimit, hanswer⟩ ⟨hnoticed, hexpired hnoticed⟩
          other := .inr (.inr (.inr ⟨limit, hlimit, hanswer⟩))
          ended := hended
          alive := by simp [hanswer] }
  · -- There was no limit to be reached, so the first wait was told of the event.
    refine ⟨fun hends => ?_, fun hsame => ?_⟩
    · have hother := hends.other
      simp [hanswer, hlimit] at hother
    · have hlimited := h.limited (hexpired (hsame.trans hrequested))
      simp [hlimit] at hlimited

end Abandoned

/-- A run is answered its output exactly if the first wait saw it. -/
theorem answer?_eq_ok_iff {command : String} (h : c.Sound) :
    c.answer? command = some (.ok ()) ↔ c.sawOutput = true := by
  have hreaches := h.reaches
  generalize hstage : c.stage = stage at hreaches
  cases hreaches with
  | output hended hkilled hsaw => exact iff_of_true (answer?_of_sawOutput command hstage hsaw) hsaw
  | abandoned hended hsaw hreason =>
      refine iff_of_false ?_ (by simp [hsaw])
      by_cases hwaiter : c.interrupted = true ∨ c.interruptedReaping = true
      · simp [answer?_of_interrupted command hstage hsaw hwaiter]
      · rcases answer?_cases command hstage hsaw hwaiter with
          ⟨-, hother⟩ | ⟨-, ⟨limit, -, hother⟩ | ⟨-, hother⟩⟩ <;> simp [hother]
  | _ => simp [answer?, *]

/-- The program of a run whose output was seen has ended, and it was not killed. -/
theorem Sound.ended_of_sawOutput (h : c.Sound) (hsaw : c.sawOutput = true) :
    c.ended = true ∧ c.killed = false := by
  have hreaches := h.reaches
  generalize c.stage = stage at hreaches
  cases hreaches with
  | output hended hkilled => exact ⟨hended, hkilled⟩
  | _ => simp_all

/-- When a run that is over has ended for its reason. -/
theorem endsForItsReason_iff {command : String} (hsound : c.Sound)
    (hover : c.answer? command ≠ none) :
    c.EndsForItsReason command ↔ c.stage ≠ .refused ∧
      (c.sawOutput = true ∨
        (c.interrupted = true ∨ c.interruptedReaping = true) ∧ c.ended = true ∨
        ¬c.WasCancelled ∧ c.noticed = c.requested) := by
  have hreaches := hsound.reaches
  generalize hstage : c.stage = stage at hreaches ⊢
  cases hreaches with
  | refused => simp [not_endsForItsReason_of_refused hsound hstage]
  | output hended hkilled hsaw =>
      exact iff_of_true (endsForItsReason_of_sawOutput hstage hended hkilled hsaw) (by simp [hsaw])
  | abandoned hended hsaw hreason =>
      by_cases hwaiter : c.interrupted = true ∨ c.interruptedReaping = true
      · have hcancelled : c.WasCancelled := hwaiter.imp_right .inl
        rw [endsForItsReason_iff_ended hstage hsaw hwaiter]
        simp [hsaw, hwaiter, hcancelled]
      · have hdone : c.ended = true :=
          hended.resolve_left fun hreaping => hwaiter (.inr hreaping)
        by_cases hdraining : c.interruptedDraining = true
        · have hcancelled : c.WasCancelled := .inr (.inr hdraining)
          refine iff_of_false (not_endsForItsReason_of_draining hstage hsaw hwaiter hdraining) ?_
          simp [hsaw, hwaiter, hcancelled]
        · have hnot : ¬c.WasCancelled := fun h => by
            rcases h with h | h | h
            · exact hwaiter (.inl h)
            · exact hwaiter (.inr h)
            · exact hdraining h
          rw [endsForItsReason_iff_noticed hstage hsaw hwaiter hsound hreason hdone hnot]
          simp [hsaw, hwaiter, hnot]
  | _ => simp [answer?, hstage] at hover

/-- What a run that is over is answered, whatever has happened to it.  It gives its output exactly if
the first wait saw it, and then the program has ended and was not killed.  It has ended for its
reason, unless its wait could not begin, in three cases: the first wait saw the output; or the
waiter was cancelled during that wait or the kill, and the program has ended all the same; or the
waiter was never cancelled, and the event is at the end of the kill what it was to the first
wait. -/
theorem run_ends_for_its_reason_iff (command : String) (limit : Option Seconds)
    (events : List Event) (hover : ((start limit).run events).answer? command ≠ none) :
    let c := (start limit).run events
    (c.answer? command = some (.ok ()) ↔ c.sawOutput = true) ∧
      (c.sawOutput = true → c.ended = true ∧ c.killed = false) ∧
      (c.EndsForItsReason command ↔ c.stage ≠ .refused ∧
        (c.sawOutput = true ∨
          (c.interrupted = true ∨ c.interruptedReaping = true) ∧ c.ended = true ∨
          ¬c.WasCancelled ∧ c.noticed = c.requested)) := by
  intro c
  have hsound : c.Sound := (sound_start limit).run events
  exact ⟨answer?_eq_ok_iff hsound, hsound.ended_of_sawOutput, endsForItsReason_iff hsound hover⟩

/-- Limits and events of runs, and what they are answered. -/
def misfits : List (Option Seconds × List Event × Failure) :=
  [ -- The limit is reached, and the event is set while the killed program ends.
    (some (.whole 1), [.expire, .resume, .request, .exit, .resume, .resume], .cancelled "f"),
    -- Without a limit, the event is set, and cleared while the killed program ends.
    (none, [.request, .notice, .resume, .withdraw, .exit, .resume, .resume], .wrongKind),
    -- The waiter is cancelled again before the killed program has ended.
    (none, [.interrupt, .resume, .interrupt, .resume], .waiterCancelled),
    -- The limit is reached, and the waiter is cancelled while it calls off the reading.
    (some (.whole 1), [.expire, .resume, .exit, .resume, .interrupt, .resume],
      .timedOut "f" (.whole 1)),
    -- The wait cannot begin.
    (some (.whole (10 ^ 400)), [.request, .notice, .resume], .numberTooLarge)]

/-- None of these runs ends for its reason. -/
theorem run_ends_for_its_reason_iff_misfits : misfits.Forall fun m =>
    ((start m.1).run m.2.1).answer? "f" = some (.error m.2.2) ∧
      ¬((start m.1).run m.2.1).EndsForItsReason "f" := by
  have hanswer : ∀ m ∈ misfits,
      ((start m.1).run m.2.1).answer? "f" = some (.error m.2.2) := by decide +kernel
  have hmisses : ∀ m ∈ misfits, let c := (start m.1).run m.2.1
      ¬(c.stage ≠ .refused ∧ (c.sawOutput = true ∨
        (c.interrupted = true ∨ c.interruptedReaping = true) ∧ c.ended = true ∨
        ¬c.WasCancelled ∧ c.noticed = c.requested)) := by decide +kernel
  refine List.forall_iff_forall_mem.mpr fun m hm => ?_
  have hover : ((start m.1).run m.2.1).answer? "f" ≠ none := by simp [hanswer m hm]
  exact ⟨hanswer m hm,
    (run_ends_for_its_reason_iff "f" m.1 m.2.1 hover).2.2.not.mpr (hmisses m hm)⟩

/-! ## Runs on a schedule -/

@[simp]
theorem limit_drain (c : Course) : c.drain.limit = c.limit := by
  unfold drain
  split <;> rfl

@[simp]
theorem limit_kill (c : Course) : c.kill.limit = c.limit := by
  unfold kill
  split
  · exact limit_drain c
  · rfl

@[simp]
theorem limit_goOn (c : Course) : c.goOn.limit = c.limit := by
  unfold goOn
  cases c.stage <;> simp only [apply_ite limit, limit_kill, limit_drain, finish, ite_self]

/-- Events do not change the limit. -/
theorem limit_step (c : Course) (event : Event) : (c.step event).limit = c.limit := by
  unfold step
  cases event <;> simp only [apply_ite limit, limit_goOn, interrupt, ite_self]

theorem limit_run (c : Course) (events : List Event) : (c.run events).limit = c.limit := by
  induction events generalizing c with
  | nil => rfl
  | cons event rest ih => rw [run_cons, ih, limit_step]

/-- Nothing happens to a run that is over. -/
theorem run_of_isOver (h : c.isOver = true) (events : List Event) : c.run events = c := by
  induction events with
  | nil => rfl
  | cons event rest ih =>
      rw [run_cons, show c.step event = c from if_pos h, ih]

/-- The course of a run on a schedule ends with what the wait for the run sees, or it does not end.
The event is never cleared, and nothing happens to the waiter while the program is killed. -/
theorem run_events {limit : Option Seconds}
    (hlimit : (limit.any fun s => s.toBinary?.isNone) = false) (schedule : Schedule)
    (completes : Bool) :
    let c := (start limit).run (schedule.events limit completes)
    match schedule.watch? limit completes with
    | none => c.stage = .waiting
    | some watch => c.stage = .over watch ∧
        (c.sawOutput = true ∨ c.interrupted = true ∧ c.ended = true ∨
          ¬c.WasCancelled ∧ c.noticed = c.requested) := by
  have hstart : start limit =
      ⟨limit, .waiting, false, false, false, false, false, false, false, false, false, false,
        false⟩ := by simp [start, hlimit]
  unfold Schedule.events Schedule.watch?
  dsimp only
  rw [hstart]
  cases earlier (limit.bind Seconds.instant?) (earlier schedule.cancelAt schedule.abandonAt) with
  | none =>
      cases completes with
      | false => rfl
      | true => exact ⟨rfl, .inl rfl⟩
  | some now =>
      dsimp only
      by_cases hin : (completes && decide (0 < now)) = true
      · rw [if_pos hin, if_pos hin]
        exact ⟨rfl, .inl rfl⟩
      · rw [if_neg hin, if_neg hin]
        cases hexpires : reached (limit.bind Seconds.instant?) now with
        | false =>
            cases reached schedule.cancelAt now with
            | false => exact ⟨rfl, .inr (.inl ⟨rfl, rfl⟩)⟩
            | true => exact ⟨rfl, .inr (.inr ⟨(by rintro (h | h | h) <;> cases h), rfl⟩)⟩
        | true =>
            obtain ⟨moment, hmoment⟩ : ∃ moment, limit.bind Seconds.instant? = some moment := by
              cases hbind : limit.bind Seconds.instant? with
              | none => simp [reached, hbind] at hexpires
              | some moment => exact ⟨moment, rfl⟩
            cases reached schedule.cancelAt now <;>
              simp [step, isOver, goOn, kill, drain, finish, watch, WasCancelled, hmoment]

/-- A run on a schedule that ends, with a limit that can be waited for, ends for its reason. -/
theorem endsForItsReason_of_events {limit : Option Seconds}
    (hlimit : (limit.any fun s => s.toBinary?.isNone) = false) {schedule : Schedule}
    {completes : Bool} {watch : Watch} (hwatch : schedule.watch? limit completes = some watch)
    (command : String) :
    ((start limit).run (schedule.events limit completes)).EndsForItsReason command := by
  have hrun := run_events hlimit schedule completes
  dsimp only at hrun
  rw [hwatch] at hrun
  obtain ⟨hstage, hkept⟩ := hrun
  have hover : ((start limit).run (schedule.events limit completes)).answer? command ≠ none := by
    unfold answer?
    rw [hstage]
    dsimp only
    split <;> simp
  have hsound : ((start limit).run (schedule.events limit completes)).Sound :=
    (sound_start limit).run _
  refine (endsForItsReason_iff hsound hover).mpr ⟨by simp [hstage], ?_⟩
  exact hkept.imp_right (Or.imp_left (And.imp_left .inl))

end Course

/-- Only a limit ends a wait that sees neither the output nor a cancellation. -/
theorem Schedule.exists_limit_of_watch? {schedule : Schedule} {limit : Option Seconds}
    {completes : Bool} (hwatch : schedule.watch? limit completes = some ⟨false, false, false⟩) :
    ∃ s, limit = some s := by
  cases limit with
  | some s => exact ⟨s, rfl⟩
  | none =>
      unfold watch? at hwatch
      dsimp only [Option.bind_none] at hwatch
      split at hwatch
      · split at hwatch <;> simp at hwatch
      · split at hwatch
        · simp at hwatch
        · simp [reached] at hwatch

namespace Execution

open Action

/-- A command that starts is answered what the course of its run on the schedule comes to, and its
output is read when that is the output.  So the runs of which the course speaks are those that are
made. -/
theorem result_execute_eq_answer {w : World} {command : String} {arguments : List String}
    {terms : Terms} {ready : Launch.Ready}
    (hstart : Launch.start w command arguments terms.directory = .ok ready)
    (input : Option String) (strict : Bool) :
    let finish := ready.finish? (inputBytes input) w.files
    ((execute (command :: arguments) input terms strict).outcome w).1 =
      match ((Course.start terms.limit).run
        (terms.schedule.events terms.limit finish.isSome)).answer? command with
      | none => .error .unending
      | some (.error failure) => .error failure
      | some (.ok ()) => verdict command terms.limit strict (.output, finish) := by
  intro finish
  obtain ⟨first, second, hexecute⟩ := outcome_execute_of_started hstart input strict
  rw [hexecute]
  dsimp only
  rw [Locator.outcome_supervise]
  cases hlimit : terms.limit.any fun s => s.toBinary?.isNone with
  | true =>
      have hrefused : (Course.start terms.limit).stage = .refused := by
        simp [Course.start, hlimit]
      rw [Course.run_of_isOver (by simp [Course.isOver, hrefused])]
      simp [Course.answer?, hrefused, Except.bind]
  | false =>
      have hrun := Course.run_events hlimit terms.schedule finish.isSome
      rw [if_neg Bool.false_ne_true, World.files_logging,
        show ready.finish? (inputBytes input) w.files = finish from rfl]
      cases hwatch : terms.schedule.watch? terms.limit finish.isSome with
      | none =>
          rw [hwatch] at hrun
          simp only [Course.answer?, hrun]
          rfl
      | some watch =>
          rw [hwatch] at hrun
          simp only [Course.answer?, hrun.1, Course.limit_run]
          rcases watch with ⟨_ | _, _ | _, _ | _⟩
          · obtain ⟨limit, hgiven⟩ := Schedule.exists_limit_of_watch? hwatch
            simp only [hgiven]
            rfl
          all_goals rfl

end Execution

end FormatLauncher
