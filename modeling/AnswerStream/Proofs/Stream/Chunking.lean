import AnswerStream.Proofs.Stream.Batch

/-!
The same octets in different chunks. Whether a body fails does not depend on the cuts, and an
acceptable body delivers the same in all of them. Of another body a cut may lose messages: a push
that meets a bad line also drops the good lines that its chunk completed.
-/

namespace AnswerStream
open Sse (Frame FrameReader LineDecoder Acceptable goodLines lineText splitLines)

namespace Delivery

/-- The messages among deliveries. -/
def heard (ds : List Delivery) : List Message := ds.filterMap Except.toOption

theorem heard_append (as bs : List Delivery) : heard (as ++ bs) = heard as ++ heard bs :=
  List.filterMap_append

theorem heard_upToFailure_append_error (ds : List Delivery) (e : Failure) :
    heard (upToFailure (ds ++ [.error e])) = heard (upToFailure ds) := by
  cases hok : allOk ds with
  | true =>
    rw [upToFailure_append hok, upToFailure_of_allOk hok, heard_append, upToFailure_error]
    simp [heard, Except.toOption]
  | false => rw [upToFailure_append_of_failure hok]

theorem heard_prefix {as bs : List Delivery} (h : as <+: bs) :
    heard (upToFailure as) <+: heard (upToFailure bs) := by
  obtain ⟨rest, rfl⟩ := h
  cases hok : allOk as with
  | true =>
    rw [upToFailure_append hok, upToFailure_of_allOk hok, heard_append]
    exact List.prefix_append _ _
  | false =>
    have hsame := upToFailure_append_of_failure hok rest
    exact hsame ▸ List.prefix_rfl

end Delivery

namespace Chunking

/-- What a body delivers that comes in these chunks and ends. -/
def stream (chunks : List (List UInt8)) : List Delivery := messages (chunks.map .chunk)

/-- The messages of the frames that the lines before the first unreadable one close. -/
def audible (bytes : List UInt8) : List Message :=
  let lines := (goodLines LineDecoder.defaultLimit bytes).map lineText
  Delivery.heard (Delivery.ofFrames (FrameReader.empty.feedAll lines).2)

theorem received_chunks (chunks : List (List UInt8)) :
    Batch.received (chunks.map .chunk) = (chunks, none) := by
  induction chunks with
  | nil => rfl
  | cons chunk chunks ih => simp [Batch.received, ih]

theorem stream_eq (chunks : List (List UInt8)) :
    stream chunks =
      let (texts, result) := LineDecoder.pushAll (.empty LineDecoder.defaultLimit) chunks
      let (frames, closed) := FrameReader.empty.feedAll texts
      Delivery.upToFailure
        (closed.filterMap Delivery.ofFrame? ++ StreamReader.closing frames none result) := by
  rw [stream, messages_eq_upToFailure, StreamReader.uncut_eq, received_chunks]

theorem stream_congr {cs₁ cs₂ : List (List UInt8)} (hsame : cs₁.flatten = cs₂.flatten)
    (h : Acceptable LineDecoder.defaultLimit cs₁.flatten) : stream cs₁ = stream cs₂ := by
  have hpush₁ := LineDecoder.pushAll_eq_ok_iff.mpr ⟨h, rfl, rfl⟩
  have hpush₂ := LineDecoder.pushAll_eq_ok_iff.mpr ⟨hsame ▸ h, rfl, rfl⟩
  rw [stream_eq, stream_eq, hpush₁, hpush₂, hsame]

/-- Any other body fails, and delivers the messages of the lines that came through. -/
theorem stream_of_not_acceptable {chunks : List (List UInt8)}
    (h : ¬ Acceptable LineDecoder.defaultLimit chunks.flatten) :
    let texts := (LineDecoder.pushAll (.empty LineDecoder.defaultLimit) chunks).1
    texts <+: (goodLines LineDecoder.defaultLimit chunks.flatten).map lineText ∧
      Delivery.allOk (stream chunks) = false ∧
      Delivery.heard (stream chunks) =
        Delivery.heard (Delivery.ofFrames (FrameReader.empty.feedAll texts).2) := by
  have hfail := @LineDecoder.pushAll_of_not_acceptable LineDecoder.defaultLimit [] chunks
    (by simp) (Nat.zero_le _) h
  obtain ⟨hlines, e, he⟩ := hfail
  have hstream := stream_eq chunks
  have hresult : (LineDecoder.pushAll (.empty LineDecoder.defaultLimit) chunks).2 = .error e := he
  simp only [hresult, StreamReader.closing] at hstream
  refine ⟨hlines, ?_, ?_⟩
  · rw [hstream, Delivery.allOk_upToFailure, Delivery.allOk_append]
    simp [Delivery.allOk]
  · rw [hstream, Delivery.heard_upToFailure_append_error]
    rfl

theorem heard_stream_prefix {chunks : List (List UInt8)}
    (h : ¬ Acceptable LineDecoder.defaultLimit chunks.flatten) :
    Delivery.heard (stream chunks) <+: audible chunks.flatten := by
  obtain ⟨hlines, -, hheard⟩ := stream_of_not_acceptable h
  rw [hheard]
  exact Delivery.heard_prefix ((FrameReader.feedAll_prefix _ hlines).filterMap _)

/-- One chunk for everything loses all that came before the bad line. -/
theorem heard_stream_whole {bytes : List UInt8}
    (h : ¬ Acceptable LineDecoder.defaultLimit bytes) : Delivery.heard (stream [bytes]) = [] := by
  have hflat : ¬ Acceptable LineDecoder.defaultLimit [bytes].flatten := by simpa using h
  obtain ⟨-, -, hheard⟩ := stream_of_not_acceptable hflat
  obtain ⟨d, e, hpush⟩ :=
    @LineDecoder.push_of_not_acceptable (.empty LineDecoder.defaultLimit) bytes h
  rw [hheard]
  simp [LineDecoder.pushAll, hpush, Delivery.ofFrames, Delivery.heard]

theorem flatten_singletons (bytes : List UInt8) : (bytes.map fun b => [b]).flatten = bytes := by
  induction bytes with
  | nil => rfl
  | cons b bytes ih => simpa using ih

theorem heard_stream_singletons {bytes : List UInt8}
    (h : ¬ Acceptable LineDecoder.defaultLimit bytes) :
    Delivery.heard (stream (bytes.map fun b => [b])) = audible bytes := by
  have hflat : ¬ Acceptable LineDecoder.defaultLimit (bytes.map fun b => [b]).flatten := by
    rwa [flatten_singletons]
  obtain ⟨-, -, hheard⟩ := stream_of_not_acceptable hflat
  have hlines := @LineDecoder.pushAll_singletons LineDecoder.defaultLimit [] (by simp) bytes
  rw [hheard]
  change Delivery.heard (Delivery.ofFrames (FrameReader.empty.feedAll
    (LineDecoder.pushAll ⟨LineDecoder.defaultLimit, []⟩ _).1).2) = _
  rw [hlines]
  rfl

/-- Two bodies of the same octets fail together, and what is heard of an unacceptable body is the
start of what is heard before its first bad line. All cuts are heard alike just if the body is
acceptable or nothing is heard before its bad line. -/
theorem stream_of_cuts (bytes : List UInt8) :
    (∀ cs₁ cs₂, cs₁.flatten = bytes → cs₂.flatten = bytes →
      Delivery.allOk (stream cs₁) = Delivery.allOk (stream cs₂)) ∧
    (∀ cs, cs.flatten = bytes → ¬ Acceptable LineDecoder.defaultLimit bytes →
      Delivery.heard (stream cs) <+: audible bytes) ∧
    ((∀ cs₁ cs₂, cs₁.flatten = bytes → cs₂.flatten = bytes →
        Delivery.heard (stream cs₁) = Delivery.heard (stream cs₂)) ↔
      Acceptable LineDecoder.defaultLimit bytes ∨ audible bytes = []) := by
  refine ⟨?_, ?_, ?_, ?_⟩
  · rintro cs₁ cs₂ rfl hsame
    by_cases h : Acceptable LineDecoder.defaultLimit cs₁.flatten
    · rw [stream_congr hsame.symm h]
    · have h₂ : ¬ Acceptable LineDecoder.defaultLimit cs₂.flatten := by rwa [hsame]
      rw [(stream_of_not_acceptable h).2.1, (stream_of_not_acceptable h₂).2.1]
  · rintro cs rfl h
    exact heard_stream_prefix h
  · intro hall
    by_cases h : Acceptable LineDecoder.defaultLimit bytes
    · exact Or.inl h
    · right
      rw [← heard_stream_singletons h, ← heard_stream_whole h]
      exact hall _ _ (flatten_singletons bytes) (by simp)
  · rintro hquiet cs₁ cs₂ rfl hsame
    by_cases h : Acceptable LineDecoder.defaultLimit cs₁.flatten
    · rw [stream_congr hsame.symm h]
    · have h₂ : ¬ Acceptable LineDecoder.defaultLimit cs₂.flatten := by rwa [hsame]
      have hnone := hquiet.resolve_left h
      have hheard₁ := heard_stream_prefix h
      have hheard₂ := heard_stream_prefix h₂
      rw [hsame] at hheard₂
      rw [hnone, List.prefix_nil] at hheard₁ hheard₂
      rw [hheard₁, hheard₂]

/-- A frame, and behind it a line that is no text. -/
def spoilt : List UInt8 := Utf8.encode "data: \x7b\x7d\n\n" ++ [0xFF, 0x0A]

theorem not_acceptable_spoilt : ¬ Acceptable LineDecoder.defaultLimit spoilt := by
  intro h
  have hline := (h.1 [0xFF] (by decide)).2
  revert hline
  decide

theorem audible_spoilt : audible spoilt = [⟨.pending, none, false, false, none, none, []⟩] := by
  with_unfolding_all rfl

/-- The message in front of the bad line is heard if its chunk ends with it, and lost if the bad
line comes in the same chunk. -/
theorem not_heard_alike : ¬ ∀ cs₁ cs₂ : List (List UInt8), cs₁.flatten = cs₂.flatten →
    Delivery.heard (stream cs₁) = Delivery.heard (stream cs₂) ∧
      Delivery.allOk (stream cs₁) = Delivery.allOk (stream cs₂) := by
  intro hall
  have halike := (hall (spoilt.map fun b => [b]) [spoilt] (by simp [flatten_singletons])).1
  rw [heard_stream_singletons not_acceptable_spoilt, heard_stream_whole not_acceptable_spoilt,
    audible_spoilt] at halike
  cases halike

theorem stream_of_cuts_spoilt :
    let cut : List (List UInt8) := [Utf8.encode "data: \x7b\x7d\n\n", [0xFF, 0x0A]]
    cut.flatten = spoilt ∧ Delivery.allOk (stream cut) = Delivery.allOk (stream [spoilt]) ∧
      Delivery.heard (stream cut) <+: audible spoilt ∧ audible spoilt ≠ [] ∧
      ¬ ∀ cs₁ cs₂, cs₁.flatten = spoilt → cs₂.flatten = spoilt →
        Delivery.heard (stream cs₁) = Delivery.heard (stream cs₂) := by
  intro cut
  obtain ⟨hfail, hprefix, halike⟩ := stream_of_cuts spoilt
  have hcut : cut.flatten = spoilt := rfl
  have haudible : audible spoilt ≠ [] := by simp [audible_spoilt]
  refine ⟨hcut, hfail cut [spoilt] hcut (by simp), hprefix cut hcut not_acceptable_spoilt,
    haudible, ?_⟩
  intro hall
  exact (halike.mp hall).elim not_acceptable_spoilt haudible

end Chunking
end AnswerStream
