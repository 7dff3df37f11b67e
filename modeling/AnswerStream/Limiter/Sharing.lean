import AnswerStream.Limiter.Bucket

/-!
One bucket for many callers. Whoever takes a token holds the lock of the bucket from the first step
to the last, through the whole wait, so that the others queue; nobody says in which order they get
the lock. A call can be given up in the queue or in its wait, which frees the lock. Settings are
changed and read under the same lock.
-/

namespace AnswerStream

/-- Who holds the lock and waits for a token. -/
structure Sleeper (τ : Type) where
  caller : Nat
  since : τ
  wait : τ
  deriving DecidableEq, Repr

/-- A call that an enabled bucket has let pass. -/
structure Passage (τ : Type) where
  caller : Nat
  instant : τ
  wait : τ
  deriving DecidableEq, Repr

structure SharedBucket (α τ : Type) where
  bucket : Bucket α τ
  now : τ
  /-- Calls that wait for the lock. -/
  queue : List Nat
  sleeper : Option (Sleeper τ)
  /-- The latest first. -/
  passed : List (Passage τ)

namespace SharedBucket

inductive Action (τ : Type)
  /-- The clock moves on. -/
  | tick (instant : τ)
  | ask (caller : Nat)
  /-- A call from the queue gets the lock. -/
  | enter (caller : Nat)
  /-- The wait is over. -/
  | wake
  /-- A call is given up in the queue. -/
  | leave (caller : Nat)
  /-- The call that holds the lock is given up in its wait. -/
  | giveUp
  | setEnabled (enabled : Bool)
  | configure (capacity : Nat) (period : τ)
  /-- Somebody reads the counts, or whether the bucket is on. -/
  | readStats
  deriving DecidableEq, Repr

def Action.isConfigure {τ : Type} : Action τ → Bool
  | .configure _ _ => true
  | _ => false

variable {α τ : Type} [Metering α τ] [LE τ] [DecidableLE τ]

/-- A bucket that nobody has asked yet. -/
def start (bucket : Bucket α τ) (now : τ) : SharedBucket α τ := ⟨bucket, now, [], none, []⟩

def locked (s : SharedBucket α τ) : Bool := s.sleeper.isSome

/-- A call has got the lock: it passes, or sleeps on. -/
def attend (s : SharedBucket α τ) (caller : Nat) : SharedBucket α τ :=
  match s.bucket.request s.now with
  | (bucket, .now) =>
    { s with
      bucket
      passed :=
        if s.bucket.enabled then ⟨caller, s.now, Metering.none α⟩ :: s.passed else s.passed }
  | (bucket, .after wait) => { s with bucket, sleeper := some ⟨caller, s.now, wait⟩ }

/-- The call that slept takes its token, at some instant after the end of its wait. -/
def rouse (s : SharedBucket α τ) (z : Sleeper τ) : SharedBucket α τ :=
  { s with
    bucket := s.bucket.complete s.now z.wait
    sleeper := none
    passed := ⟨z.caller, s.now, z.wait⟩ :: s.passed }

/-- What an action leads to, where it is possible. -/
def step? (s : SharedBucket α τ) : Action τ → Option (SharedBucket α τ)
  | .tick instant => if s.now ≤ instant then some { s with now := instant } else none
  | .ask caller => some { s with queue := s.queue ++ [caller] }
  | .enter caller =>
    if !s.locked && s.queue.contains caller then
      some (attend { s with queue := s.queue.erase caller } caller)
    else none
  | .wake =>
    match s.sleeper with
    | some z => if Metering.plus α z.since z.wait ≤ s.now then some (s.rouse z) else none
    | none => none
  | .leave caller =>
    if s.queue.contains caller then some { s with queue := s.queue.erase caller } else none
  | .giveUp => if s.locked then some { s with sleeper := none } else none
  | .setEnabled enabled =>
    if s.locked then none else some { s with bucket := s.bucket.setEnabled enabled }
  | .configure capacity period =>
    match s.bucket.configure capacity period s.now with
    | .error _ => some s
    | .ok bucket => if s.locked then none else some { s with bucket }
  | .readStats => if s.locked then none else some s

def run? (s : SharedBucket α τ) (actions : List (Action τ)) : Option (SharedBucket α τ) :=
  actions.foldlM step? s

/-- The calls that passed between two instants. -/
def passedWithin (s : SharedBucket α τ) (first last : τ) : List (Passage τ) :=
  s.passed.filter fun p => first ≤ p.instant && p.instant ≤ last

end SharedBucket
end AnswerStream
