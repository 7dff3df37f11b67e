import AnswerStream.Proofs.Stream.Demand
import Mathlib.Data.List.Basic

/-!
The stream of a body as a computation on the whole body: its octets are cut into lines, the lines
gathered into frames, and the frames decoded up to the first failure. Every body whose lines the
decoder accepts delivers just this, in whatever chunks it arrives.
-/

namespace AnswerStream
open Sse (Frame FrameReader LineDecoder Acceptable splitLines lineText)

namespace Batch

/-- The chunks before the first failure of a body, and that failure. -/
def received : List Arrival → List (List UInt8) × Option TransportError
  | [] => ([], none)
  | .failure e :: _ => ([], some e)
  | .chunk bytes :: rest => (bytes :: (received rest).1, (received rest).2)

/-- Whether the decoder takes the chunks before the first failure and, where the body ends without
one, the tail behind its last line feed. -/
def Accepted (arrivals : List Arrival) : Prop :=
  ∃ d texts, LineDecoder.pushAll (.empty LineDecoder.defaultLimit) (received arrivals).1 =
      (texts, .ok d) ∧
    ((received arrivals).2 = none → ∃ line, d.finish.2 = .ok line)

/-- The lines of a body: what follows the last line feed is one only if the body has ended. -/
def lines (arrivals : List Arrival) : List String :=
  let (complete, tail) := splitLines (received arrivals).1.flatten
  let ended := (received arrivals).2.isNone && !tail.isEmpty
  (complete ++ if ended then [tail] else []).map lineText

/-- The frames that the lines close, and the one that the end of the body closes. -/
def frames (arrivals : List Arrival) : List Frame :=
  let (reader, closed) := FrameReader.empty.feedAll (lines arrivals)
  closed ++ if (received arrivals).2.isNone then reader.finish.2.toList else []

/-- The failure of the body follows where no frame has failed. -/
def deliveries (arrivals : List Arrival) : List Delivery :=
  let ds := Delivery.ofFrames (frames arrivals)
  if Delivery.allOk ds then
    ds ++ (received arrivals).2.toList.map fun e => .error (.ofTransport e)
  else ds

end Batch

namespace StreamReader
open Batch (received)

/-- What is delivered after the lines: the failure of a push, the failure of the body, or what the
end of the body closes. -/
def closing (frames : FrameReader) (failure : Option TransportError) :
    Except Failure LineDecoder → List Delivery
  | .error e => [.error e]
  | .ok d =>
    match failure with
    | some e => [.error (.ofTransport e)]
    | none => uncut d frames []

theorem uncut_eq (d : LineDecoder) (frames : FrameReader) (arrivals : List Arrival) :
    uncut d frames arrivals =
      (frames.feedAll (d.pushAll (received arrivals).1).1).2.filterMap Delivery.ofFrame? ++
        closing (frames.feedAll (d.pushAll (received arrivals).1).1).1 (received arrivals).2
          (d.pushAll (received arrivals).1).2 := by
  induction arrivals generalizing d frames with
  | nil => rfl
  | cons a rest ih =>
    cases a with
    | failure e => rfl
    | chunk bytes =>
      simp only [uncut, received, LineDecoder.pushAll]
      rcases d.push bytes with ⟨d', e | texts⟩
      · rfl
      · simp only [ih, FrameReader.feedAll_append, List.filterMap_append, List.append_assoc]

end StreamReader

namespace Batch

theorem lines_eq {arrivals : List Arrival} {d : LineDecoder} {texts : List String}
    (hpush : LineDecoder.pushAll (.empty LineDecoder.defaultLimit) (received arrivals).1 =
      (texts, .ok d)) :
    (∀ e, (received arrivals).2 = some e → lines arrivals = texts) ∧
      ∀ line, (received arrivals).2 = none → d.finish.2 = .ok line →
        lines arrivals = texts ++ line.toList := by
  obtain ⟨-, htexts, hd⟩ := LineDecoder.pushAll_eq_ok_iff.mp hpush
  subst htexts hd
  constructor
  · intro e he
    simp [lines, he]
  · intro line hnone hfinish
    simp only [lines, hnone, Option.isNone_none, Bool.true_and]
    rcases htail : (splitLines (received arrivals).1.flatten).2 with _ | ⟨b, tail⟩
    · rw [htail] at hfinish
      have hline : line = none := (Except.ok.inj hfinish).symm
      simp [hline]
    · rw [htail] at hfinish
      have hmap : (Sse.decodeLine (b :: tail)).map some = .ok line := hfinish
      rcases hdecode : Sse.decodeLine (b :: tail) with e | text
      · rw [hdecode] at hmap
        cases hmap
      · rw [hdecode] at hmap
        have hline : line = some text := (Except.ok.inj hmap).symm
        simp [hline, Sse.lineText_of_decodeLine hdecode]

theorem deliveries_eq_upToFailure (arrivals : List Arrival) :
    deliveries arrivals = Delivery.upToFailure ((frames arrivals).filterMap Delivery.ofFrame? ++
      (received arrivals).2.toList.map fun e => .error (.ofTransport e)) := by
  simp only [deliveries, Delivery.ofFrames, Delivery.allOk_upToFailure]
  cases hok : Delivery.allOk ((frames arrivals).filterMap Delivery.ofFrame?) with
  | true =>
    rw [Delivery.upToFailure_append hok, Delivery.upToFailure_of_allOk hok]
    cases (received arrivals).2 <;> simp [Delivery.upToFailure]
  | false => simp [Delivery.upToFailure_append_of_failure hok]

theorem uncut_of_accepted {arrivals : List Arrival} (h : Accepted arrivals) :
    StreamReader.uncut (.empty LineDecoder.defaultLimit) .empty arrivals =
      (frames arrivals).filterMap Delivery.ofFrame? ++
        (received arrivals).2.toList.map fun e => .error (.ofTransport e) := by
  obtain ⟨d, texts, hpush, hfinish⟩ := h
  obtain ⟨hbroken, hended⟩ := lines_eq hpush
  rw [StreamReader.uncut_eq, hpush]
  cases hfailure : (received arrivals).2 with
  | some e =>
    have hframes : frames arrivals = (FrameReader.empty.feedAll texts).2 := by
      simp [frames, hbroken e hfailure, hfailure]
    simp [StreamReader.closing, hframes]
  | none =>
    obtain ⟨line, hline⟩ := hfinish hfailure
    have hframes : frames arrivals = (FrameReader.empty.feedAll texts).2 ++
        (((FrameReader.empty.feedAll texts).1.feedAll line.toList).2 ++
          ((FrameReader.empty.feedAll texts).1.feedAll line.toList).1.finish.2.toList) := by
      simp [frames, hended line hfailure hline, hfailure, FrameReader.feedAll_append]
    simp only [StreamReader.closing, StreamReader.uncut, hline, hframes, List.filterMap_append,
      Option.toList_none, List.map_nil, List.append_nil]

end Batch

end AnswerStream
