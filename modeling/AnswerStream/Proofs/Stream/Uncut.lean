import AnswerStream.Message.Stream
import AnswerStream.Proofs.Sse.Lines

/-!
The deliveries of a body without the cut after the first failure. The stream of a body is this list
up to its first failure, so that a statement on streams can be read off a list in which nothing is
lost.
-/

namespace AnswerStream
open Sse (Frame FrameReader LineDecoder)

namespace Delivery

theorem filterMap_toList (f : Option Frame) :
    f.toList.filterMap ofFrame? = (f.bind ofFrame?).toList := by
  cases f with
  | none => rfl
  | some f => cases h : ofFrame? f <;> simp [h]

@[simp] theorem isOk_ok (m : Message) : isOk (.ok m) = true := rfl

@[simp] theorem isOk_error (e : Failure) : isOk (.error e) = false := rfl

theorem allOk_append (as bs : List Delivery) : allOk (as ++ bs) = (allOk as && allOk bs) :=
  List.all_append

theorem upToFailure_of_allOk {ds : List Delivery} (h : allOk ds = true) : upToFailure ds = ds := by
  have hall := List.all_eq_true.mp h
  rw [upToFailure, List.takeWhile_eq_self_iff.mpr hall, List.dropWhile_eq_nil_iff.mpr hall]
  simp

theorem upToFailure_append {as : List Delivery} (h : allOk as = true) (bs : List Delivery) :
    upToFailure (as ++ bs) = as ++ upToFailure bs := by
  have hall := List.all_eq_true.mp h
  rw [upToFailure, List.takeWhile_append_of_pos hall, List.dropWhile_append_of_pos hall,
    List.append_assoc]
  rfl

theorem upToFailure_append_of_failure {as : List Delivery} (h : allOk as = false)
    (bs : List Delivery) : upToFailure (as ++ bs) = upToFailure as := by
  induction as with
  | nil => cases h
  | cons d as ih =>
    cases hd : isOk d with
    | false => simp [upToFailure, hd]
    | true =>
      have hrest : allOk as = false := by simpa [allOk, hd] using h
      have hcut := ih hrest
      simp only [upToFailure, List.cons_append, List.takeWhile_cons, List.dropWhile_cons, hd,
        if_true] at hcut ⊢
      rw [hcut]

@[simp] theorem upToFailure_error (e : Failure) (ds : List Delivery) :
    upToFailure (.error e :: ds) = [.error e] := by
  simp [upToFailure]

@[simp] theorem upToFailure_nil : upToFailure [] = [] := rfl

@[simp] theorem upToFailure_singleton (d : Delivery) : upToFailure [d] = [d] := by
  cases d <;> rfl

@[simp] theorem upToFailure_eq_nil_iff {ds : List Delivery} : upToFailure ds = [] ↔ ds = [] := by
  rcases ds with _ | ⟨e | m, ds⟩
  · simp
  · simp
  · simp [upToFailure]

@[simp] theorem allOk_upToFailure (ds : List Delivery) : allOk (upToFailure ds) = allOk ds := by
  induction ds with
  | nil => rfl
  | cons d ds ih =>
    cases d with
    | error e => simp [allOk]
    | ok m =>
      rw [← List.singleton_append, upToFailure_append rfl]
      simpa [allOk] using ih

theorem upToFailure_shape (ds : List Delivery) :
    ∃ (ms : List Message) (failure : Option Failure),
      upToFailure ds = ms.map .ok ++ failure.toList.map .error := by
  induction ds with
  | nil => exact ⟨[], none, rfl⟩
  | cons d ds ih =>
    cases d with
    | error e => exact ⟨[], some e, upToFailure_error e ds⟩
    | ok m =>
      obtain ⟨ms, failure, h⟩ := ih
      refine ⟨m :: ms, failure, ?_⟩
      rw [← List.singleton_append, upToFailure_append rfl, h]
      rfl

end Delivery

namespace StreamReader

/-- What the rest of a body delivers when nothing is cut off after a failure. -/
def uncut (lines : LineDecoder) (frames : FrameReader) : List Arrival → List Delivery
  | [] =>
    match lines.finish.2 with
    | .error e => [.error e]
    | .ok line =>
      let (frames, closed) := frames.feedAll line.toList
      (closed ++ frames.finish.2.toList).filterMap Delivery.ofFrame?
  | .failure e :: _ => [.error (.ofTransport e)]
  | .chunk bytes :: rest =>
    match lines.push bytes with
    | (_, .error e) => [.error e]
    | (lines, .ok texts) =>
      let (frames, closed) := frames.feedAll texts
      closed.filterMap Delivery.ofFrame? ++ uncut lines frames rest

theorem run_eq (r : StreamReader) (done : List Delivery) (arrivals : List Arrival) :
    r.run done arrivals = ((r.run [] arrivals).1, done.reverse ++ (r.run [] arrivals).2) := by
  induction arrivals generalizing r done with
  | nil => simp [run]
  | cons a rest ih =>
    simp only [run]
    rw [ih _ ((r.feed a).2.reverse ++ done), ih _ ((r.feed a).2.reverse ++ [])]
    simp

theorem run_cons (r : StreamReader) (a : Arrival) (rest : List Arrival) :
    r.run [] (a :: rest) =
      (((r.feed a).1.run [] rest).1, (r.feed a).2 ++ ((r.feed a).1.run [] rest).2) := by
  simp only [run]
  rw [run_eq]
  simp

theorem run_append (r : StreamReader) (as bs : List Arrival) :
    r.run [] (as ++ bs) =
      (((r.run [] as).1.run [] bs).1, (r.run [] as).2 ++ ((r.run [] as).1.run [] bs).2) := by
  induction as generalizing r with
  | nil => simp [run]
  | cons a as ih =>
    rw [List.cons_append, run_cons, ih, run_cons]
    simp

theorem run_of_failed {r : StreamReader} (h : r.failed = true) (arrivals : List Arrival) :
    r.run [] arrivals = (r, []) := by
  induction arrivals with
  | nil => rfl
  | cons a rest ih =>
    have hfeed : r.feed a = (r, []) := by simp [feed, h]
    rw [run_cons, hfeed, ih]
    rfl

theorem finish_of_failed {r : StreamReader} (h : r.failed = true) : r.finish = [] := by
  simp [finish, h]

theorem failed_feed {r : StreamReader} (h : r.failed = false) (a : Arrival) :
    (r.feed a).1.failed = !Delivery.allOk (r.feed a).2 := by
  cases a with
  | failure e => simp [feed, h, Delivery.allOk]
  | chunk bytes =>
    simp only [feed, h, Bool.false_eq_true, if_false, feedChunk, takeLines]
    rcases r.lines.push bytes with ⟨lines, e | texts⟩
    · simp [Delivery.allOk]
    · rfl

theorem failed_run {r : StreamReader} (h : r.failed = false) (arrivals : List Arrival) :
    (r.run [] arrivals).1.failed = !Delivery.allOk (r.run [] arrivals).2 := by
  induction arrivals generalizing r with
  | nil => simpa [run, Delivery.allOk] using h
  | cons a rest ih =>
    have hfeed := failed_feed h a
    rw [run_cons, Delivery.allOk_append]
    cases hok : Delivery.allOk (r.feed a).2 with
    | true => simpa using ih (by rw [hfeed, hok]; rfl)
    | false =>
      have hfailed : (r.feed a).1.failed = true := by rw [hfeed, hok]; rfl
      rw [run_of_failed hfailed, hfailed]
      rfl

/-- Reading on from any point delivers the uncut list up to its first failure. -/
theorem run_finish (lines : LineDecoder) (frames : FrameReader) (arrivals : List Arrival) :
    ((⟨lines, frames, false⟩ : StreamReader).run [] arrivals).2 ++
        ((⟨lines, frames, false⟩ : StreamReader).run [] arrivals).1.finish =
      Delivery.upToFailure (uncut lines frames arrivals) := by
  induction arrivals generalizing lines frames with
  | nil =>
    simp only [run, uncut, finish]
    rcases lines.finish.2 with e | line
    · simp
    · simp [Delivery.ofFrames]
  | cons a rest ih =>
    rw [run_cons, List.append_assoc]
    cases a with
    | failure e =>
      have hfeed : (⟨lines, frames, false⟩ : StreamReader).feed (.failure e) =
        (⟨lines, frames, true⟩, [.error (.ofTransport e)]) := rfl
      rw [hfeed, run_of_failed rfl, finish_of_failed rfl, uncut, Delivery.upToFailure_error]
      rfl
    | chunk bytes =>
      have hfeed : (⟨lines, frames, false⟩ : StreamReader).feed (.chunk bytes) =
        (⟨lines, frames, false⟩ : StreamReader).feedChunk bytes := rfl
      rw [hfeed]
      simp only [feedChunk, takeLines, uncut]
      rcases lines.push bytes with ⟨lines', e | texts⟩
      · simp [run_of_failed, finish_of_failed]
      · cases hok : Delivery.allOk ((frames.feedAll texts).2.filterMap Delivery.ofFrame?) with
        | true =>
          simp only [Delivery.ofFrames, Delivery.upToFailure_of_allOk hok,
            Delivery.upToFailure_append hok, hok, Bool.not_true, ih]
        | false =>
          simp only [Delivery.ofFrames, Delivery.allOk_upToFailure,
            Delivery.upToFailure_append_of_failure hok, hok, Bool.not_false]
          rw [run_of_failed rfl, finish_of_failed rfl]
          simp

end StreamReader

theorem messages_append_of_failure {before : List Arrival}
    (h : Delivery.allOk (StreamReader.start.run [] before).2 = false) (after : List Arrival) :
    messages (before ++ after) = (StreamReader.start.run [] before).2 := by
  have hfailed : (StreamReader.start.run [] before).1.failed = true := by
    rw [StreamReader.failed_run rfl, h]
    rfl
  rw [messages, StreamReader.run_append, StreamReader.run_of_failed hfailed]
  simp [StreamReader.finish_of_failed hfailed]

theorem messages_eq_upToFailure (arrivals : List Arrival) :
    messages arrivals = Delivery.upToFailure
      (StreamReader.uncut (.empty LineDecoder.defaultLimit) .empty arrivals) :=
  StreamReader.run_finish _ _ arrivals

end AnswerStream
