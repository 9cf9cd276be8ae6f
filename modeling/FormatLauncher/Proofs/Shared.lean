/-
# What the callers of a cache get

Whatever happens to a cache in use, its tasks are those of the keys that were asked for, one for
each key, and a caller that was answered got what the task of its key came to.  That is one
invariant: a single event keeps it, so every sequence of events does.  What a cancelled caller
leaves behind is found by comparing two runs, one with the cancellation and one without it.
-/

import FormatLauncher.Locator.Shared
import FormatLauncher.Proofs.Cache
import Mathlib.Data.Finset.Card

namespace FormatLauncher.Locator

open Action

namespace Cache

/-- The keys of a cache, in the order in which their tasks were started. -/
def keys (cache : Cache) : List Key := cache.tasks.map Prod.fst

theorem task?_eq_none_iff {cache : Cache} {key : Key} :
    cache.task? key = none ↔ key ∉ cache.keys := by
  rw [task?, List.lookup_eq_none_iff, keys, List.mem_map]
  constructor
  · rintro hnone ⟨⟨other, task⟩, hin, rfl⟩
    simpa using hnone _ hin
  · rintro hnone ⟨other, task⟩ hin
    simpa using fun hkey : key = other => hnone ⟨(other, task), hin, hkey.symm⟩

/-- A key that has a task is asked for in vain. -/
theorem ask_of_mem {cache : Cache} {key : Key} (h : key ∈ cache.keys) :
    cache.ask key = (cache, false) := by
  cases htask : cache.task? key with
  | none => exact absurd h (task?_eq_none_iff.mp htask)
  | some task => simp only [ask, htask]

/-- A key that has no task gets one, after all others. -/
theorem ask_of_not_mem {cache : Cache} {key : Key} (h : key ∉ cache.keys) :
    cache.ask key = (⟨cache.tasks ++ [(key, .running)]⟩, true) := by
  simp only [ask, task?_eq_none_iff.mpr h]

/-- That a task ends changes no key. -/
@[simp]
theorem keys_finish (cache : Cache) (key : Key) (outcome : Outcome) :
    (cache.finish key outcome).keys = cache.keys := by
  rw [keys, keys, finish, List.map_map]
  refine List.map_congr_left fun (other, task) _ => ?_
  cases task with
  | finished earlier => rfl
  | running => by_cases hkey : other = key <;> simp [hkey]

/-- Asking changes no outcome: a new task is running. -/
theorem outcome?_ask (cache : Cache) (key other : Key) :
    (cache.ask key).1.outcome? other = cache.outcome? other := by
  rw [outcome?, outcome?, task?_ask]
  by_cases hkey : other = key
  · rcases htask : cache.task? other with _ | (_ | earlier) <;> simp [hkey]
  · simp [hkey]

/-- A running task that ends has the outcome it ends with. -/
theorem outcome?_finish_of_running {cache : Cache} {key : Key} (h : cache.task? key = some .running)
    (outcome : Outcome) : (cache.finish key outcome).outcome? key = some outcome := by
  rw [outcome?_eq_some_iff, task?_finish, h]
  simp

/-- A key with a task has a running one as long as it has no outcome. -/
theorem task?_eq_running {cache : Cache} {key : Key} (hkey : key ∈ cache.keys)
    (hunknown : cache.outcome? key = none) : cache.task? key = some .running := by
  rw [outcome?] at hunknown
  rcases htask : cache.task? key with _ | (_ | earlier)
  · exact absurd hkey (task?_eq_none_iff.mp htask)
  · rfl
  · simp [htask] at hunknown

/-- A task that has ended keeps its outcome when another one ends, or the same one once more. -/
theorem outcome?_finish_of_some {cache : Cache} {key : Key} {known : Outcome}
    (h : cache.outcome? key = some known) (other : Key) (outcome : Outcome) :
    (cache.finish other outcome).outcome? key = some known := by
  rw [outcome?_eq_some_iff] at h ⊢
  rw [task?_finish, h]
  rfl

end Cache

namespace Caller

@[simp]
theorem key_resume (caller : Caller) (cache : Cache) : (caller.resume cache).key = caller.key := by
  unfold resume
  split <;> rfl

@[simp]
theorem key_cancel (caller : Caller) : caller.cancel.key = caller.key := by
  unfold cancel
  split <;> rfl

/-- A caller that waits gets the outcome of its task. -/
theorem resume_of_waiting {cache : Cache} {key : Key} {outcome : Outcome}
    (h : cache.outcome? key = some outcome) :
    resume ⟨key, .waiting⟩ cache = ⟨key, .answered outcome⟩ := by
  simp [resume, h]

/-- A caller has what its task came to, or it still waits, or it may have been cancelled. -/
def Fits (caller : Caller) (cache : Cache) (mayBeCancelled : Prop) : Prop :=
  match caller.reply with
  | .waiting => True
  | .answered outcome => cache.outcome? caller.key = some outcome
  | .cancelled => mayBeCancelled

/-- A caller fits later on, when every outcome stays. -/
theorem Fits.mono {caller : Caller} {cache later : Cache} {old new : Prop}
    (h : caller.Fits cache old)
    (hkept : ∀ outcome, cache.outcome? caller.key = some outcome →
      later.outcome? caller.key = some outcome) (hnew : old → new) : caller.Fits later new := by
  unfold Fits at h ⊢
  cases hreply : caller.reply with
  | waiting => trivial
  | answered outcome =>
      rw [hreply] at h
      exact hkept outcome h
  | cancelled =>
      rw [hreply] at h
      exact hnew h

/-- A caller that goes on fits. -/
theorem Fits.resume {caller : Caller} {cache : Cache} {cancelled : Prop}
    (h : caller.Fits cache cancelled) : (caller.resume cache).Fits cache cancelled := by
  rcases caller with ⟨key, _ | _ | _⟩
  · cases houtcome : cache.outcome? key with
    | none => simp [Caller.resume, houtcome, Fits]
    | some outcome => simp [Caller.resume, houtcome, Fits]
  · exact h
  · exact h

/-- A caller that is cancelled fits, as it may be. -/
theorem Fits.cancel {caller : Caller} {cache : Cache} {old new : Prop}
    (h : caller.Fits cache old) (hold : old → new) (hnew : new) :
    caller.cancel.Fits cache new := by
  rcases caller with ⟨key, _ | _ | _⟩
  · exact hnew
  · exact h
  · exact hold h

end Caller

namespace Shared

@[simp]
theorem run_nil (s : Shared) : s.run [] = s := rfl

@[simp]
theorem run_cons (s : Shared) (event : Event) (rest : List Event) :
    s.run (event :: rest) = (s.step event).run rest := rfl

@[simp]
theorem run_append (s : Shared) (first second : List Event) :
    s.run (first ++ second) = (s.run first).run second :=
  List.foldl_append

@[simp]
theorem calls_append (first second : List Event) :
    calls (first ++ second) = calls first ++ calls second :=
  List.filterMap_append

/-! ## What every run keeps -/

/-- A cache in use is as the events so far have made it. -/
structure Sound (s : Shared) (events : List Event) : Prop where
  /-- The tasks are those that were started. -/
  started : s.started.map Query.key = s.cache.keys
  /-- No key has two tasks. -/
  nodup : s.cache.keys.Nodup
  /-- The keys that have a task are those that were asked for. -/
  asked : ∀ key, key ∈ s.cache.keys ↔ key ∈ (calls events).map Query.key
  /-- Every call has its caller. -/
  callers : s.callers.map Caller.key = (calls events).map Query.key
  fits : ∀ (n : Nat) (caller : Caller), s.callers[n]? = some caller →
    caller.Fits s.cache (.cancel n ∈ events)

theorem sound_empty : empty.Sound [] where
  started := rfl
  nodup := List.nodup_nil
  asked := by simp [empty, Cache.empty, Cache.keys, calls]
  callers := rfl
  fits := by simp [empty]

/-- A call of a key that has a task adds a caller and no task. -/
theorem step_call_of_mem {s : Shared} {q : Query} (h : q.key ∈ s.cache.keys) :
    s.step (.call q) =
      { s with callers := s.callers ++ [Caller.resume ⟨q.key, .waiting⟩ s.cache] } := by
  simp only [step, Cache.ask_of_mem h, Bool.false_eq_true, if_false]

/-- A call of a key that has no task starts one. -/
theorem step_call_of_not_mem {s : Shared} {q : Query} (h : q.key ∉ s.cache.keys) :
    (s.step (.call q)).cache.keys = s.cache.keys ++ [q.key] ∧
      (s.step (.call q)).started = s.started ++ [q] := by
  simp [step, Cache.ask_of_not_mem h, Cache.keys]

/-- The callers after a call are those before and one more. -/
theorem callers_step_call (s : Shared) (q : Query) :
    (s.step (.call q)).callers =
      s.callers ++ [Caller.resume ⟨q.key, .waiting⟩ (s.cache.ask q.key).1] := rfl

/-- No event takes an outcome back. -/
theorem outcome?_step {s : Shared} {key : Key} {outcome : Outcome}
    (h : s.cache.outcome? key = some outcome) (event : Event) :
    (s.step event).cache.outcome? key = some outcome := by
  cases event with
  | call q => exact (Cache.outcome?_ask s.cache q.key key).trans h
  | complete other ended => exact Cache.outcome?_finish_of_some h other ended
  | resume n => exact h
  | cancel n => exact h

/-- A caller that fits still fits after an event that does not concern it. -/
theorem Sound.fits_step {s : Shared} {events : List Event} (h : s.Sound events) (event : Event)
    {n : Nat} {caller : Caller} (hcaller : s.callers[n]? = some caller) :
    caller.Fits (s.step event).cache (.cancel n ∈ events ++ [event]) :=
  (h.fits n caller hcaller).mono (fun _ houtcome => outcome?_step houtcome event)
    (List.mem_append_left _)

/-- An event that is no call keeps a cache in use sound when it changes no key and every caller
still fits. -/
theorem Sound.of_no_call {s : Shared} {events : List Event} (h : s.Sound events) {event : Event}
    (hcall : calls [event] = []) (hstarted : (s.step event).started = s.started)
    (hkeys : (s.step event).cache.keys = s.cache.keys)
    (hcallers : (s.step event).callers.map Caller.key = s.callers.map Caller.key)
    (hfits : ∀ (n : Nat) (caller : Caller), (s.step event).callers[n]? = some caller →
      caller.Fits (s.step event).cache (.cancel n ∈ events ++ [event])) :
    (s.step event).Sound (events ++ [event]) where
  started := by rw [hstarted, hkeys, h.started]
  nodup := hkeys ▸ h.nodup
  asked := by simpa only [hkeys, calls_append, hcall, List.append_nil] using h.asked
  callers := by rw [hcallers, h.callers, calls_append, hcall, List.append_nil]
  fits := hfits

/-- A call keeps a cache in use sound: it starts a task only if its key has none. -/
theorem Sound.step_call {s : Shared} {events : List Event} (h : s.Sound events) (q : Query) :
    (s.step (.call q)).Sound (events ++ [.call q]) := by
  have hcalls : calls (events ++ [.call q]) = calls events ++ [q] := calls_append _ _
  have hcallers : (s.step (.call q)).callers.map Caller.key =
      (calls (events ++ [.call q])).map Query.key := by
    simp [callers_step_call, h.callers, hcalls]
  have hfits (n : Nat) (caller : Caller) (hcaller : (s.step (.call q)).callers[n]? = some caller) :
      caller.Fits (s.step (.call q)).cache (.cancel n ∈ events ++ [.call q]) := by
    rw [callers_step_call, List.getElem?_append] at hcaller
    split at hcaller
    · exact h.fits_step _ hcaller
    · obtain rfl := (List.mem_singleton.mp (List.mem_of_getElem? hcaller)).symm
      exact Caller.Fits.resume trivial
  by_cases hold : q.key ∈ s.cache.keys
  · have hstep := step_call_of_mem hold
    refine ⟨?_, ?_, fun key => ?_, hcallers, hfits⟩
    · simpa only [hstep] using h.started
    · simpa only [hstep] using h.nodup
    · simp only [hstep, h.asked, hcalls, List.map_append, List.mem_append, List.map_singleton,
        List.mem_singleton]
      exact ⟨.inl, fun hkey => hkey.elim id fun hkey => hkey ▸ (h.asked _).mp hold⟩
  · obtain ⟨hkeys, hstarted⟩ := step_call_of_not_mem hold
    refine ⟨?_, ?_, fun key => ?_, hcallers, hfits⟩
    · simp [hkeys, hstarted, h.started]
    · rw [hkeys]
      exact List.nodup_append'.mpr ⟨h.nodup, List.nodup_singleton q.key,
        List.disjoint_singleton.mpr hold⟩
    · simp [hkeys, h.asked, hcalls]

/-- What becomes of the callers when one of them changes. -/
theorem getElem?_modify_cases {callers : List Caller} {m n : Nat} {change : Caller → Caller}
    {caller : Caller} (h : (callers.modify m change)[n]? = some caller) :
    (n = m ∧ ∃ before, callers[m]? = some before ∧ change before = caller) ∨
      callers[n]? = some caller := by
  rw [List.getElem?_modify] at h
  obtain ⟨before, hbefore, hchange⟩ := Option.map_eq_some_iff.mp h
  by_cases hsame : m = n
  · subst hsame
    exact .inl ⟨rfl, before, hbefore, by simpa using hchange⟩
  · obtain rfl : before = caller := by simpa [hsame] using hchange
    exact .inr hbefore

/-- An event that changes one caller, and not its key, keeps a cache in use sound if that caller
still fits. -/
theorem Sound.of_modify {s : Shared} {events : List Event} (h : s.Sound events) {event : Event}
    {m : Nat} {change : Caller → Caller} (hcall : calls [event] = [])
    (hstep : s.step event = { s with callers := s.callers.modify m change })
    (hkey : ∀ caller, (change caller).key = caller.key)
    (hchanged : ∀ caller, caller.Fits s.cache (.cancel m ∈ events) →
      (change caller).Fits s.cache (.cancel m ∈ events ++ [event])) :
    (s.step event).Sound (events ++ [event]) := by
  have hcallers : (s.callers.modify m change).map Caller.key = s.callers.map Caller.key := by
    refine List.ext_getElem? fun n => ?_
    rw [List.getElem?_map, List.getElem?_map, List.getElem?_modify]
    cases s.callers[n]? with
    | none => rfl
    | some caller => by_cases hsame : m = n <;> simp [hsame, hkey]
  refine h.of_no_call hcall (by rw [hstep]) (by rw [hstep]) (by rw [hstep, hcallers]) ?_
  intro n caller hcaller
  rw [hstep] at hcaller
  obtain ⟨rfl, before, hbefore, rfl⟩ | hbefore := getElem?_modify_cases hcaller
  · simpa only [hstep] using hchanged before (h.fits n before hbefore)
  · exact h.fits_step event hbefore

/-- One step: every event keeps a cache in use sound. -/
theorem Sound.step {s : Shared} {events : List Event} (h : s.Sound events) (event : Event) :
    (s.step event).Sound (events ++ [event]) := by
  cases event with
  | call q => exact h.step_call q
  | complete key outcome =>
      exact h.of_no_call rfl rfl (Cache.keys_finish s.cache key outcome) rfl fun n caller hcaller =>
        h.fits_step _ hcaller
  | resume m =>
      refine h.of_modify rfl rfl (fun caller => Caller.key_resume caller s.cache) ?_
      exact fun caller hfits => (hfits.mono (fun _ => id) (List.mem_append_left _)).resume
  | cancel m =>
      refine h.of_modify rfl rfl Caller.key_cancel ?_
      exact fun caller hfits => hfits.cancel (List.mem_append_left _) (by simp)

/-- Every sequence of events keeps a cache in use sound, by induction on the events. -/
theorem Sound.run {s : Shared} {before : List Event} (h : s.Sound before) (events : List Event) :
    (s.run events).Sound (before ++ events) := by
  induction events generalizing s before with
  | nil => simpa using h
  | cons event rest ih => simpa using ih (h.step event)

/-- A cache in use is sound whatever happened to it. -/
theorem sound_run (events : List Event) : (empty.run events).Sound events :=
  sound_empty.run events

/-! ## Nothing is taken back -/

/-- A later state of a cache in use: tasks may have been added and may have ended, and waiting
callers may have been answered or cancelled. -/
structure Extends (s later : Shared) : Prop where
  keys : s.cache.keys <+: later.cache.keys
  started : s.started <+: later.started
  outcomes : ∀ key outcome, s.cache.outcome? key = some outcome →
    later.cache.outcome? key = some outcome
  answers : ∀ (n : Nat) key outcome, s.callers[n]? = some ⟨key, .answered outcome⟩ →
    later.callers[n]? = some ⟨key, .answered outcome⟩

theorem Extends.refl (s : Shared) : s.Extends s :=
  ⟨List.prefix_rfl, List.prefix_rfl, fun _ _ => id, fun _ _ _ => id⟩

theorem Extends.trans {s between later : Shared} (h : s.Extends between)
    (h' : between.Extends later) : s.Extends later where
  keys := h.keys.trans h'.keys
  started := h.started.trans h'.started
  outcomes key outcome houtcome := h'.outcomes key outcome (h.outcomes key outcome houtcome)
  answers n key outcome hanswer := h'.answers n key outcome (h.answers n key outcome hanswer)

/-- One step: an event takes nothing back. -/
theorem extends_step (s : Shared) (event : Event) : s.Extends (s.step event) where
  outcomes _ _ houtcome := outcome?_step houtcome event
  keys := by
    cases event with
    | call q =>
        by_cases hold : q.key ∈ s.cache.keys
        · rw [step_call_of_mem hold]
        · rw [(step_call_of_not_mem hold).1]
          exact List.prefix_append _ _
    | complete key outcome => exact (Cache.keys_finish s.cache key outcome).symm ▸ List.prefix_rfl
    | resume n => exact List.prefix_rfl
    | cancel n => exact List.prefix_rfl
  started := by
    cases event with
    | call q =>
        by_cases hold : q.key ∈ s.cache.keys
        · rw [step_call_of_mem hold]
        · rw [(step_call_of_not_mem hold).2]
          exact List.prefix_append _ _
    | complete key outcome => exact List.prefix_rfl
    | resume n => exact List.prefix_rfl
    | cancel n => exact List.prefix_rfl
  answers n key outcome hanswer := by
    cases event with
    | call q =>
        rw [callers_step_call, List.getElem?_append_left (List.getElem?_eq_some_iff.mp hanswer).1]
        exact hanswer
    | complete other ended => exact hanswer
    | resume m => simp [step, List.getElem?_modify, hanswer, Caller.resume]
    | cancel m => simp [step, List.getElem?_modify, hanswer, Caller.cancel]

/-- Events take nothing back, by induction on them. -/
theorem extends_run (s : Shared) (events : List Event) : s.Extends (s.run events) := by
  induction events generalizing s with
  | nil => exact .refl s
  | cons event rest ih => exact (extends_step s event).trans (ih (s.step event))

/-! ## What a cancelled caller leaves behind -/

/-- Two caches in use that differ in what came of one call at most. -/
structure AlikeBut (n : Nat) (s other : Shared) : Prop where
  cache : s.cache = other.cache
  started : s.started = other.started
  length : s.callers.length = other.callers.length
  callers : ∀ m ≠ n, s.callers[m]? = other.callers[m]?

/-- That a caller is cancelled is seen at this caller only. -/
theorem alikeBut_cancel (n : Nat) (s : Shared) : AlikeBut n (s.step (.cancel n)) s where
  cache := rfl
  started := rfl
  length := List.length_modify ..
  callers m hm := by simp [step, hm.symm]

/-- One step: after the same event two caches in use still differ in no other call. -/
theorem AlikeBut.step {n : Nat} {s other : Shared} (h : AlikeBut n s other) (event : Event) :
    AlikeBut n (s.step event) (other.step event) := by
  rcases s with ⟨cache, started, callers⟩
  rcases other with ⟨_, _, callers'⟩
  obtain ⟨rfl, rfl, hlength, hcallers⟩ := h
  cases event with
  | call q =>
      refine ⟨rfl, rfl, by simpa [Shared.step] using hlength, fun m hm => ?_⟩
      have hcaller := hcallers m hm
      dsimp only at hlength hcaller
      simp only [Shared.step, List.getElem?_append, hlength, hcaller]
  | complete key outcome => exact ⟨rfl, rfl, hlength, hcallers⟩
  | resume k =>
      refine ⟨rfl, rfl, by simpa [Shared.step] using hlength, fun m hm => ?_⟩
      have hcaller := hcallers m hm
      dsimp only at hcaller
      simp only [Shared.step, List.getElem?_modify, hcaller]
  | cancel k =>
      refine ⟨rfl, rfl, by simpa [Shared.step] using hlength, fun m hm => ?_⟩
      have hcaller := hcallers m hm
      dsimp only at hcaller
      simp only [Shared.step, List.getElem?_modify, hcaller]

/-- After the same events two caches in use still differ in no other call, by induction on the
events. -/
theorem AlikeBut.run {n : Nat} {s other : Shared} (h : AlikeBut n s other) (events : List Event) :
    AlikeBut n (s.run events) (other.run events) := by
  induction events generalizing s other with
  | nil => exact h
  | cons event rest ih => exact ih (h.step event)

/-! ## What a caller gets -/

/-- Every call has its caller, which is not cancelled unless it is asked to be. -/
theorem exists_caller {events : List Event} {n : Nat} {q : Query}
    (h : (calls events)[n]? = some q) :
    ∃ reply, (empty.run events).callers[n]? = some ⟨q.key, reply⟩ ∧
      Caller.Fits ⟨q.key, reply⟩ (empty.run events).cache (.cancel n ∈ events) := by
  have hsound := sound_run events
  have hkey : ((empty.run events).callers[n]?).map Caller.key = some q.key := by
    rw [← List.getElem?_map, hsound.callers, List.getElem?_map, h]
    rfl
  obtain ⟨⟨key, reply⟩, hcaller, rfl⟩ := Option.map_eq_some_iff.mp hkey
  exact ⟨reply, hcaller, hsound.fits n _ hcaller⟩

/-- A caller that fits and may not be cancelled is answered when it goes on. -/
theorem callers_step_resume {s : Shared} {n : Nat} {key : Key} {reply : Reply} {outcome : Outcome}
    (hcaller : s.callers[n]? = some ⟨key, reply⟩) (houtcome : s.cache.outcome? key = some outcome)
    (hfits : Caller.Fits ⟨key, reply⟩ s.cache False) :
    (s.step (.resume n)).callers[n]? = some ⟨key, .answered outcome⟩ := by
  have hresume : (Caller.mk key reply).resume s.cache = ⟨key, .answered outcome⟩ := by
    cases reply with
    | waiting => exact Caller.resume_of_waiting houtcome
    | answered known =>
        obtain rfl : known = outcome := Option.some.inj (hfits.symm.trans houtcome)
        rfl
    | cancelled => exact hfits.elim
  simp [step, hcaller, hresume]

/-- A caller that is not cancelled gets the outcome of its key as soon as it goes on after the task
has ended, and keeps it. -/
theorem answered_of_resume {events more : List Event} {n : Nat} {q : Query} {outcome : Outcome}
    (hcall : (calls events)[n]? = some q)
    (houtcome : (empty.run events).cache.outcome? q.key = some outcome)
    (hcancel : .cancel n ∉ events ++ more) (hresume : .resume n ∈ more) :
    ((empty.run events).run more).callers[n]? = some ⟨q.key, .answered outcome⟩ := by
  obtain ⟨before, after, rfl⟩ := List.append_of_mem hresume
  -- The state in which the caller goes on.
  have houtcome' : (empty.run (events ++ before)).cache.outcome? q.key = some outcome := by
    rw [run_append]
    exact (extends_run (empty.run events) before).outcomes q.key outcome houtcome
  have hcall' : (calls (events ++ before))[n]? = some q := by
    rw [calls_append, List.getElem?_append_left (List.getElem?_eq_some_iff.mp hcall).1, hcall]
  obtain ⟨reply, hcaller, hfits⟩ := exists_caller hcall'
  have hanswered := callers_step_resume hcaller houtcome' <|
    hfits.mono (fun _ => id) fun hbefore => hcancel (by simp_all)
  have hlast := (extends_run ((empty.run (events ++ before)).step (.resume n)) after).answers n
    q.key outcome hanswered
  simpa using hlast

/-- A cache locates once per key, however calls, ends of tasks and cancellations are mixed.  It
starts one task for every key that was asked for, and their number is the size of the cache.  No
task is taken back; it ends once, and never loses its outcome.  A caller that is answered has the
outcome of its key, a caller that is cancelled was to be, and any other one gets that outcome when
it goes on after its task has ended.  If a caller is cancelled, then whatever happens afterwards,
the tasks and the other callers are as they would be without that. -/
theorem located_once_per_key (events : List Event) :
    let s := empty.run events
    let asked := (calls events).map Query.key
    (s.started.map Query.key).Nodup ∧ s.started.map Query.key = s.cache.keys ∧
      (∀ key, key ∈ s.cache.keys ↔ key ∈ asked) ∧
      s.cache.size = asked.toFinset.card ∧
      (∀ more, s.Extends (s.run more)) ∧
      (∀ key ∈ s.cache.keys, s.cache.outcome? key = none →
        ∀ outcome, (s.step (.complete key outcome)).cache.outcome? key = some outcome) ∧
      (∀ (n : Nat) q, (calls events)[n]? = some q →
        ∃ reply, s.callers[n]? = some ⟨q.key, reply⟩ ∧
          match reply with
          | .waiting => True
          | .answered outcome => s.cache.outcome? q.key = some outcome
          | .cancelled => .cancel n ∈ events) ∧
      (∀ (n : Nat) q outcome, (calls events)[n]? = some q →
        s.cache.outcome? q.key = some outcome →
          ∀ more, .cancel n ∉ events ++ more → .resume n ∈ more →
            (s.run more).callers[n]? = some ⟨q.key, .answered outcome⟩) ∧
      ∀ n more,
        let cancelled := (s.step (.cancel n)).run more
        cancelled.cache = (s.run more).cache ∧ cancelled.started = (s.run more).started ∧
          ∀ m ≠ n, cancelled.callers[m]? = (s.run more).callers[m]? := by
  intro s asked
  have hsound : s.Sound events := sound_run events
  refine ⟨hsound.started ▸ hsound.nodup, hsound.started, hsound.asked, ?_, extends_run s, ?_, ?_,
    ?_, ?_⟩
  · have hkeys : s.cache.keys.toFinset = asked.toFinset := by
      ext key
      rw [List.mem_toFinset, List.mem_toFinset, hsound.asked]
    rw [← hkeys, List.toFinset_card_of_nodup hsound.nodup, Cache.keys, List.length_map, Cache.size]
  · intro key hkey hunknown outcome
    exact Cache.outcome?_finish_of_running (Cache.task?_eq_running hkey hunknown) outcome
  · intro n q hcall
    obtain ⟨reply, hcaller, hfits⟩ := exists_caller hcall
    exact ⟨reply, hcaller, by cases reply <;> exact hfits⟩
  · intro n q outcome hcall houtcome more hcancel hresume
    exact answered_of_resume hcall houtcome hcancel hresume
  · intro n more cancelled
    have halike := (alikeBut_cancel n s).run more
    exact ⟨halike.cache, halike.started, halike.callers⟩

/-- A query to locate the formatter at a path. -/
def atPath (path : String) : Query := ⟨some path, ⟨[], "/", none, []⟩, none, none, false⟩

/-- Two callers of one key, of which the first is cancelled while the task runs: one task is
started, and the second caller gets what it comes to. -/
theorem located_once_per_key_cancelled :
    let events : List Event := [.call (atPath "/a"), .call (atPath "/a"), .cancel 0,
      .complete (atPath "/a").key (.ok ⟨"/a", true⟩)]
    .cancel 1 ∉ events ++ [.resume 1] ∧ .resume 1 ∈ [Event.resume 1] ∧
      (empty.run events).cache.size = 1 ∧
      ((empty.run events).run [.resume 1]).callers[1]? =
        some ⟨(atPath "/a").key, .answered (.ok ⟨"/a", true⟩)⟩ := by
  intro events
  obtain ⟨-, -, -, hsize, -, -, -, hanswered, -⟩ := located_once_per_key events
  refine ⟨by simp [events], by simp, by rw [hsize]; decide, ?_⟩
  exact hanswered 1 (atPath "/a") _ rfl (by rfl) [.resume 1] (by simp [events]) (by simp)

/-! ## The cache of a batch -/

/-- The world after queries were located one after the other, without a cache. -/
def locatedEach (limit : Option Seconds) (schedule : Schedule) (queries : List Query) (w : World) :
    World :=
  queries.foldl (fun w q => ((Locator.locate q limit schedule).outcome w).2) w

/-- The callers of queries that were answered. -/
def answeredCallers (queries : List Query) (outcomes : List Outcome) : List Caller :=
  List.zipWith (fun q outcome => ⟨q.key, .answered outcome⟩) queries outcomes

/-- What a cache answers to a query in a batch is what a call gets that goes on as soon as its task
has ended; the task is started only if the key has none. -/
theorem locate_eq_run {s : Shared} (hidle : ∀ key, s.cache.task? key ≠ some .running) (q : Query)
    (limit : Option Seconds) (schedule : Schedule) (w : World) :
    ∃ events outcome new, calls events = [q] ∧ (∀ n, .cancel n ∉ events) ∧
      (s.run events).callers = s.callers ++ answeredCallers [q] [outcome] ∧
      (s.run events).started = s.started ++ new ∧
      (∀ key, (s.run events).cache.task? key ≠ some .running) ∧
      (s.cache.locate q limit schedule).outcome w =
        (.ok (outcome, (s.run events).cache), locatedEach limit schedule new w) := by
  cases hknown : s.cache.outcome? q.key with
  | some known =>
      have hold : q.key ∈ s.cache.keys := by
        by_contra hnew
        simp [Cache.outcome?, Cache.task?_eq_none_iff.mpr hnew] at hknown
      refine ⟨[.call q], known, [], rfl, by simp, ?_, ?_, ?_, ?_⟩
      · simp [step_call_of_mem hold, Caller.resume_of_waiting hknown, answeredCallers]
      · simp [step_call_of_mem hold]
      · simpa [step_call_of_mem hold] using hidle
      · simp [Cache.locate, hknown, step_call_of_mem hold, locatedEach]
  | none =>
      have hnew : q.key ∉ s.cache.keys := fun hold =>
        hidle q.key (Cache.task?_eq_running hold hknown)
      have hnone := Cache.task?_eq_none_iff.mpr hnew
      obtain ⟨outcome, houtcome⟩ : ∃ outcome, outcome = ((Locator.locate q limit schedule).outcome
        w).1 := ⟨_, rfl⟩
      have hended : ((s.cache.ask q.key).1.finish q.key outcome).outcome? q.key = some outcome :=
        Cache.outcome?_finish_of_running (by simp [Cache.task?_ask, hnone]) outcome
      have hwaits : Caller.resume ⟨q.key, .waiting⟩ (s.cache.ask q.key).1 = ⟨q.key, .waiting⟩ := by
        simp [Caller.resume, Cache.outcome?_ask, hknown]
      refine ⟨[.call q, .complete q.key outcome, .resume s.callers.length], outcome, [q], rfl,
        by simp, ?_, ?_, ?_, ?_⟩
      · simp [step, hwaits, Caller.resume_of_waiting hended, answeredCallers,
          List.modify_eq_take_drop]
      · simp [step, Cache.ask_of_not_mem hnew]
      · intro key
        simp only [run_cons, run_nil, step]
        rw [Cache.task?_finish, Cache.task?_ask]
        by_cases hkey : key = q.key
        · simp [hkey, hnone]
        · rcases htask : s.cache.task? key with _ | (_ | earlier)
          · simp [hkey]
          · exact absurd htask (hidle key)
          · simp
      · simp [Cache.locate, hknown, locatedEach, step, houtcome, Except.map]

/-- A batch that locates through a cache in which no task is running is a run of that cache, by
induction on its queries. -/
theorem locateAll_eq_run_from {s : Shared} (hidle : ∀ key, s.cache.task? key ≠ some .running)
    (limit : Option Seconds) (schedule : Schedule) (queries : List Query) (w : World) :
    ∃ events outcomes new, calls events = queries ∧ (∀ n, .cancel n ∉ events) ∧
      (s.run events).callers = s.callers ++ answeredCallers queries outcomes ∧
      (s.run events).started = s.started ++ new ∧
      (s.cache.locateAll limit schedule queries).outcome w =
        (.ok (outcomes, (s.run events).cache),
          locatedEach limit schedule new w) := by
  induction queries generalizing s w with
  | nil => exact ⟨[], [], [], rfl, by simp, by simp [answeredCallers], by simp, rfl⟩
  | cons q rest ih =>
      obtain ⟨first, outcome, new, hcalls, hcancel, hcallers, hstarted, hidle', hlocate⟩ :=
        locate_eq_run hidle q limit schedule w
      obtain ⟨more, outcomes, news, hcalls', hcancel', hcallers', hstarted', hall⟩ :=
        ih hidle' (locatedEach limit schedule new w)
      refine ⟨first ++ more, outcome :: outcomes, new ++ news, by simp [hcalls, hcalls'],
        fun n => by simp [hcancel n, hcancel' n], ?_, ?_, ?_⟩
      · simp [hcallers, hcallers', answeredCallers]
      · simp [hstarted, hstarted']
      · have hworld : locatedEach limit schedule (new ++ news) w =
            locatedEach limit schedule news (locatedEach limit schedule new w) :=
          List.foldl_append
        simp [Cache.locateAll, outcome_bind, hlocate, hall, hworld, Except.map]

/-- The cache of a batch is a cache in use.  Nobody is cancelled, every caller gets what its task
comes to, and what the batch does in the world is to locate the queries for which tasks are started,
each of them once. -/
theorem locateAll_eq_run (limit : Option Seconds) (schedule : Schedule) (queries : List Query)
    (w : World) :
    ∃ events outcomes, calls events = queries ∧ (∀ n, .cancel n ∉ events) ∧
      (empty.run events).callers = answeredCallers queries outcomes ∧
      (Cache.empty.locateAll limit schedule queries).outcome w =
        (.ok (outcomes, (empty.run events).cache),
          locatedEach limit schedule (empty.run events).started w) := by
  obtain ⟨events, outcomes, new, hcalls, hcancel, hcallers, hstarted, hall⟩ :=
    locateAll_eq_run_from (s := empty) (fun key => by simp [empty]) limit schedule queries w
  refine ⟨events, outcomes, hcalls, hcancel, by simpa [empty] using hcallers, ?_⟩
  rw [hstarted]
  exact hall

end Shared

end FormatLauncher.Locator
