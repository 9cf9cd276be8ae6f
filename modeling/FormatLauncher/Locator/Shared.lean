/-
# Sharing a cache

The callers of a cache wait side by side.  The first call of a key starts the task that locates it.
Every caller waits for the task of its key behind a shield, and goes on some time after the task has
ended; a caller that comes later than that goes on at once.  A caller can be cancelled while it
waits.  In which order calls come, tasks end, and callers go on or are cancelled is left open.
-/

import FormatLauncher.Locator.Cache

namespace FormatLauncher.Locator

/-- What came of a call so far. -/
inductive Reply
  | waiting
  /-- The call gave what its task came to. -/
  | answered (outcome : Outcome)
  | cancelled

/-- A caller of a cache. -/
structure Caller where
  key : Key
  reply : Reply

namespace Caller

/-- A caller that waits goes on, if its task has ended. -/
def resume (caller : Caller) (cache : Cache) : Caller :=
  match caller.reply, cache.outcome? caller.key with
  | .waiting, some outcome => { caller with reply := .answered outcome }
  | _, _ => caller

/-- A caller is cancelled; one that does not wait any more is not. -/
def cancel (caller : Caller) : Caller :=
  match caller.reply with
  | .waiting => { caller with reply := .cancelled }
  | _ => caller

end Caller

/-- A cache in use: the queries it started a task for, and its callers, both in the order in which
they came. -/
structure Shared where
  cache : Cache
  started : List Query
  callers : List Caller

namespace Shared

/-- What can happen to a cache in use. -/
inductive Event
  | call (q : Query)
  /-- The task of a key ends, if it is running. -/
  | complete (key : Key) (outcome : Outcome)
  /-- A caller goes on, if its task has ended. -/
  | resume (n : Nat)
  /-- A caller is cancelled, if it is waiting. -/
  | cancel (n : Nat)

/-- A new cache. -/
def empty : Shared := ⟨.empty, [], []⟩

/-- What an event does. -/
def step (s : Shared) : Event → Shared
  | .call q =>
    let (cache, starts) := s.cache.ask q.key
    { cache
      started := if starts then s.started ++ [q] else s.started
      callers := s.callers ++ [Caller.resume ⟨q.key, .waiting⟩ cache] }
  | .complete key outcome => { s with cache := s.cache.finish key outcome }
  | .resume n => { s with callers := s.callers.modify n (Caller.resume · s.cache) }
  | .cancel n => { s with callers := s.callers.modify n Caller.cancel }

/-- What events do, one after the other. -/
def run (s : Shared) (events : List Event) : Shared := events.foldl step s

/-- The queries of the calls among events. -/
def calls (events : List Event) : List Query :=
  events.filterMap fun
    | .call q => some q
    | _ => none

end Shared

end FormatLauncher.Locator
