import AnswerStream.Proofs.Sse.Frames
import AnswerStream.Proofs.Stream.Uncut

/-!
The stream of a body drawn one delivery at a time. Lines wait in a queue until a delivery is asked
for, and the body is asked for more only when the queue is empty. Drawing until nothing comes gives
the same deliveries as reading each arrival at once.
-/

namespace AnswerStream
open Sse (Frame FrameReader LineDecoder)

/-- A stream between two demands. -/
structure Inflow where
  /-- What the body has still to deliver. -/
  arrivals : List Arrival
  lines : LineDecoder
  frames : FrameReader
  /-- Complete lines that have not been looked at. -/
  pending : List String
  ended : Bool

namespace Inflow

def start (arrivals : List Arrival) : Inflow :=
  ⟨arrivals, .empty LineDecoder.defaultLimit, .empty, [], false⟩

/-- Looks at lines up to the first that closes a frame with a delivery. -/
def drain (frames : FrameReader) : List String → FrameReader × List String × Option Delivery
  | [] => (frames, [], none)
  | line :: rest =>
    match (frames.feed line).2.bind Delivery.ofFrame? with
    | some d => ((frames.feed line).1, rest, some d)
    | none => drain (frames.feed line).1 rest

/-- Asks the body for more: the stream with new lines in its queue, or else its last delivery. -/
def ask (s : Inflow) (frames : FrameReader) : Except (Option Delivery) Inflow :=
  if s.ended then .error (frames.finish.2.bind Delivery.ofFrame?)
  else
    match s.arrivals with
    | .chunk bytes :: rest =>
      match s.lines.push bytes with
      | (lines, .ok texts) => .ok ⟨rest, lines, frames, texts, false⟩
      | (_, .error e) => .error (some (.error e))
    | .failure e :: _ => .error (some (.error (.ofTransport e)))
    | [] =>
      match s.lines.finish with
      | (lines, .ok line) => .ok ⟨[], lines, frames, line.toList, true⟩
      | (_, .error e) => .error (some (.error e))

/-- What is left to be asked of the body. -/
def remaining (s : Inflow) : Nat := s.arrivals.length + if s.ended then 0 else 1

theorem remaining_of_ask {s s' : Inflow} {frames : FrameReader} (h : s.ask frames = .ok s') :
    s'.remaining < s.remaining := by
  rw [ask] at h
  split at h
  · cases h
  next hended =>
    split at h <;> (try split at h) <;> cases h <;> simp_all [remaining]

/-- The next delivery, and the stream behind it unless the delivery ends it. -/
def next (s : Inflow) : Option (Delivery × Option Inflow) :=
  match drain s.frames s.pending with
  | (frames, pending, some (.ok m)) => some (.ok m, some { s with frames, pending })
  | (_, _, some (.error e)) => some (.error e, none)
  | (frames, _, none) =>
    match _h : s.ask frames with
    | .ok s' => next s'
    | .error last => last.map fun d => (d, none)
  termination_by s.remaining
  decreasing_by exact remaining_of_ask _h

theorem deliveries_cons (frames : FrameReader) (line : String) (lines : List String) :
    (frames.feedAll (line :: lines)).2.filterMap Delivery.ofFrame? =
      ((frames.feed line).2.bind Delivery.ofFrame?).toList ++
        ((frames.feed line).1.feedAll lines).2.filterMap Delivery.ofFrame? := by
  rw [FrameReader.feedAll_cons, List.filterMap_append, Delivery.filterMap_toList]

theorem drain_some {frames frames' : FrameReader} {lines rest : List String} {d : Delivery}
    (h : drain frames lines = (frames', rest, some d)) :
    rest.length < lines.length ∧ (frames.feedAll lines).1 = (frames'.feedAll rest).1 ∧
      (frames.feedAll lines).2.filterMap Delivery.ofFrame? =
        d :: (frames'.feedAll rest).2.filterMap Delivery.ofFrame? := by
  induction lines generalizing frames with
  | nil => cases h
  | cons line lines ih =>
    rw [deliveries_cons, FrameReader.feedAll_cons]
    rw [drain] at h
    split at h
    next d' hd =>
      obtain ⟨rfl, rfl, hd'⟩ := h
      simp [hd]
    next hd =>
      obtain ⟨hlength, hframes, hdeliveries⟩ := ih h
      rw [hd]
      exact ⟨Nat.lt_succ_of_lt hlength, hframes, hdeliveries⟩

theorem drain_none {frames frames' : FrameReader} {lines rest : List String}
    (h : drain frames lines = (frames', rest, none)) :
    (frames.feedAll lines).1 = frames' ∧
      (frames.feedAll lines).2.filterMap Delivery.ofFrame? = [] := by
  induction lines generalizing frames with
  | nil =>
    obtain ⟨rfl, -⟩ := h
    exact ⟨rfl, rfl⟩
  | cons line lines ih =>
    rw [deliveries_cons, FrameReader.feedAll_cons]
    rw [drain] at h
    split at h
    next => cases h
    next hd =>
      obtain ⟨hframes, hdeliveries⟩ := ih h
      rw [hd]
      exact ⟨hframes, hdeliveries⟩

/-- What the body will still deliver, behind the lines of the queue, when nothing is cut off. -/
def behind (s : Inflow) (frames : FrameReader) : List Delivery :=
  if s.ended then (frames.finish.2.bind Delivery.ofFrame?).toList
  else StreamReader.uncut s.lines frames s.arrivals

/-- What a stream has still to deliver when nothing is cut off after a failure. -/
def uncut (s : Inflow) : List Delivery :=
  (s.frames.feedAll s.pending).2.filterMap Delivery.ofFrame? ++
    s.behind (s.frames.feedAll s.pending).1

theorem uncut_of_ask {s s' : Inflow} {frames : FrameReader} (h : s.ask frames = .ok s') :
    s'.uncut = s.behind frames := by
  rw [ask] at h
  split at h
  · cases h
  next hended =>
    rw [behind, if_neg hended]
    split at h
    next bytes rest harrivals =>
      split at h <;> cases h
      next lines texts hpush =>
        simp only [uncut, behind, harrivals, StreamReader.uncut, hpush, Bool.false_eq_true,
          if_false]
    next => cases h
    next harrivals =>
      split at h <;> cases h
      next lines line hfinish =>
        simp only [uncut, behind, harrivals, StreamReader.uncut, hfinish, if_true,
          List.filterMap_append, Delivery.filterMap_toList]

theorem behind_of_ask {s : Inflow} {frames : FrameReader} {last : Option Delivery}
    (h : s.ask frames = .error last) :
    Delivery.upToFailure (s.behind frames) = last.toList := by
  rw [ask] at h
  split at h
  next hended =>
    cases h
    rw [behind, if_pos hended]
    cases frames.finish.2.bind Delivery.ofFrame? <;> simp
  next hended =>
    rw [behind, if_neg hended]
    split at h
    next bytes rest harrivals =>
      split at h <;> cases h
      next lines e hpush => simp [harrivals, StreamReader.uncut, hpush]
    next e rest harrivals =>
      cases h
      simp [harrivals, StreamReader.uncut]
    next harrivals =>
      split at h <;> cases h
      next lines e hfinish => simp [harrivals, StreamReader.uncut, hfinish]

theorem next_of_ask_ok {s s' : Inflow} {frames : FrameReader} {rest : List String}
    (hdrain : drain s.frames s.pending = (frames, rest, none)) (hask : s.ask frames = .ok s') :
    s.next = s'.next := by
  rw [next, hdrain]
  dsimp only
  split
  next s'' h =>
    rw [hask] at h
    cases h
    rfl
  next last h =>
    rw [hask] at h
    cases h

theorem next_of_ask_error {s : Inflow} {frames : FrameReader} {rest : List String}
    {last : Option Delivery} (hdrain : drain s.frames s.pending = (frames, rest, none))
    (hask : s.ask frames = .error last) : s.next = last.map fun d => (d, none) := by
  rw [next, hdrain]
  dsimp only
  split
  next s' h =>
    rw [hask] at h
    cases h
  next last' h =>
    rw [hask] at h
    cases h
    rfl

/-- What a demand says about a stream: it gives the first uncut delivery, and the stream behind it,
which is nearer its end, has the others. -/
def Answers (s : Inflow) : Option (Delivery × Option Inflow) → Prop
  | none => s.uncut = []
  | some (d, none) => Delivery.upToFailure s.uncut = [d]
  | some (d, some s') =>
    d.isOk = true ∧ s.uncut = d :: s'.uncut ∧
      (s'.remaining < s.remaining ∨
        s'.remaining = s.remaining ∧ s'.pending.length < s.pending.length)

theorem Answers.of_ask {s s' : Inflow} (huncut : s.uncut = s'.uncut)
    (hremaining : s'.remaining < s.remaining) {answer : Option (Delivery × Option Inflow)}
    (h : s'.Answers answer) : s.Answers answer := by
  match answer, h with
  | none, h => exact huncut.trans h
  | some (d, none), h =>
    rw [Answers, huncut]
    exact h
  | some (d, some s''), ⟨hok, hrest, hnear⟩ =>
    refine ⟨hok, huncut.trans hrest, Or.inl ?_⟩
    omega

theorem answers_next (s : Inflow) : s.Answers s.next := by
  induction s using next.induct with
  | case1 s frames pending m hdrain =>
    obtain ⟨hlength, hframes, hdeliveries⟩ := drain_some hdrain
    rw [next, hdrain]
    refine ⟨rfl, ?_, Or.inr ⟨rfl, hlength⟩⟩
    simp only [uncut, behind, hdeliveries, hframes, List.cons_append]
  | case2 s frames pending e hdrain =>
    obtain ⟨-, -, hdeliveries⟩ := drain_some hdrain
    rw [next, hdrain]
    simp only [Answers, uncut, hdeliveries, List.cons_append, Delivery.upToFailure_error]
  | case3 s frames pending hdrain s' hask ih =>
    obtain ⟨hframes, hdeliveries⟩ := drain_none hdrain
    have huncut : s.uncut = s'.uncut := by
      rw [uncut, hdeliveries, hframes, uncut_of_ask hask, List.nil_append]
    rw [next_of_ask_ok hdrain hask]
    exact ih.of_ask huncut (remaining_of_ask hask)
  | case4 s frames pending hdrain last hask =>
    obtain ⟨hframes, hdeliveries⟩ := drain_none hdrain
    have huncut : Delivery.upToFailure s.uncut = last.toList := by
      rw [uncut, hdeliveries, hframes, List.nil_append, behind_of_ask hask]
    rw [next_of_ask_error hdrain hask]
    cases last with
    | none => exact Delivery.upToFailure_eq_nil_iff.mp huncut
    | some d => exact huncut

/-- Draws until nothing comes. -/
def collect (s : Inflow) : List Delivery :=
  match _h : s.next with
  | none => []
  | some (d, none) => [d]
  | some (d, some s') => d :: collect s'
  termination_by (s.remaining, s.pending.length)
  decreasing_by
    have hanswer := s.answers_next
    rw [_h] at hanswer
    exact Prod.lex_def.mpr hanswer.2.2

theorem collect_eq (s : Inflow) : s.collect = Delivery.upToFailure s.uncut := by
  induction s using collect.induct with
  | case1 s hnext =>
    have hanswer := s.answers_next
    rw [hnext] at hanswer
    rw [collect, show s.uncut = [] from hanswer]
    split <;> simp_all
  | case2 s d hnext =>
    have hanswer := s.answers_next
    rw [hnext] at hanswer
    rw [collect, show Delivery.upToFailure s.uncut = [d] from hanswer]
    split <;> simp_all
  | case3 s d s' hnext ih =>
    have hanswer := s.answers_next
    rw [hnext] at hanswer
    obtain ⟨hok, huncut, -⟩ := hanswer
    have hall : Delivery.allOk [d] = true := by simpa [Delivery.allOk] using hok
    rw [collect, huncut, ← List.singleton_append, Delivery.upToFailure_append hall, ← ih]
    split <;> simp_all

end Inflow

/-- Drawn on demand, a body delivers what it delivers when every arrival is read at once. -/
theorem collect_start (arrivals : List Arrival) :
    (Inflow.start arrivals).collect = messages arrivals := by
  rw [Inflow.collect_eq, messages_eq_upToFailure]
  rfl

end AnswerStream
