import AnswerStream.Proofs.Client.Observing
import AnswerStream.Proofs.Sse.Frames
import AnswerStream.Proofs.Sse.Lines

/-!
The terminal message is the last that counts. Some chunks of a body deliver their frames before the
body goes on; once a terminal message or a failure is among these an attempt is decided, whatever
the body would still bring and whether it ends or not. A terminal message is delivered unless its
chunk also holds a line that cannot be read: then the push fails and drops the lines that the chunk
has completed.
-/

namespace AnswerStream
open Sse (Acceptable FrameReader LineDecoder goodLines lineText splitLines)

variable {σ : Type}

namespace Delivery

variable {ds : List Delivery}

theorem taken_append_of_final (h : ∃ d ∈ ds, isFinal d = true) (later : List Delivery) :
    taken (ds ++ later) = taken ds := by
  induction ds with
  | nil =>
    obtain ⟨d, hd, -⟩ := h
    cases hd
  | cons d ds ih =>
    cases d with
    | error e => rfl
    | ok m =>
      rw [List.cons_append, taken, taken]
      cases hm : m.terminal with
      | true => rfl
      | false =>
        obtain ⟨d, hd, hfinal⟩ := h
        have hrest : d ∈ ds := by
          refine (List.mem_cons.mp hd).resolve_left fun heq => ?_
          rw [heq, isFinal, hm] at hfinal
          cases hfinal
        simp [ih ⟨d, hrest, hfinal⟩]

theorem allOk_of_prefix {before : List Delivery} (h : ds <+: before)
    (hbefore : allOk before = true) :
    allOk ds = true := by
  obtain ⟨rest, rfl⟩ := h
  rw [allOk_append, Bool.and_eq_true] at hbefore
  exact hbefore.1

theorem any_terminal_taken {before : List Delivery} {m : Message} (hbefore : allOk before = true)
    (hm : m.terminal = true) : (taken (before ++ [.ok m])).any Message.terminal = true := by
  induction before with
  | nil => simp [taken, hm]
  | cons d before ih =>
    cases d with
    | error e => cases hbefore
    | ok m' =>
      have hrest := ih hbefore
      rw [List.cons_append, taken]
      split
      · next hlast => simp [hlast]
      · simp [hrest]

end Delivery

namespace Assembly

variable {a : Assembly}

theorem gather_append_of_final {ds : List Delivery} (h : ∃ d ∈ ds, Delivery.isFinal d = true)
    (later : List Delivery) : a.gather (ds ++ later) = a.gather ds := by
  induction ds generalizing a with
  | nil =>
    obtain ⟨d, hd, -⟩ := h
    cases hd
  | cons d ds ih =>
    cases d with
    | error e => rfl
    | ok m =>
      rw [List.cons_append, gather, gather]
      cases hlast : (a.apply m).terminal with
      | true => rfl
      | false =>
        obtain ⟨d, hd, hfinal⟩ := h
        have hrest : d ∈ ds := by
          refine (List.mem_cons.mp hd).resolve_left fun heq => ?_
          rw [terminal_apply] at hlast
          rw [heq, Delivery.isFinal] at hfinal
          simp [hfinal] at hlast
        simp [ih ⟨d, hrest, hfinal⟩]

/-- Gathering takes messages up to the first terminal one, and applies these only. -/
theorem gather_of_terminal {before : List Delivery} {m : Message} (ha : a.terminal = false)
    (hbefore : Delivery.allOk before = true) (hm : m.terminal = true) (later : List Delivery) :
    a.gather (before ++ .ok m :: later) =
      .ok (a.applyAll (Delivery.taken (before ++ [.ok m]))) := by
  induction before generalizing a with
  | nil =>
    have hlast : (a.apply m).terminal = true := by rw [terminal_apply, hm, Bool.or_true]
    simp [gather, Delivery.taken, hm, hlast, applyAll]
  | cons d before ih =>
    cases d with
    | error e => cases hbefore
    | ok m' =>
      have hm' : (a.apply m').terminal = m'.terminal := by rw [terminal_apply, ha, Bool.false_or]
      rw [List.cons_append, List.cons_append, gather, Delivery.taken, hm']
      cases hlast : m'.terminal with
      | true => rfl
      | false => exact @ih (a.apply m') (hm'.trans hlast) hbefore

theorem gather_of_failure {before : List Delivery} (ha : a.terminal = false)
    (hbefore : Delivery.allOk before = true) (hnone : ∀ m, .ok m ∈ before → m.terminal = false)
    (e : Failure) (later : List Delivery) : a.gather (before ++ .error e :: later) = .error e := by
  induction before generalizing a with
  | nil => rfl
  | cons d before ih =>
    cases d with
    | error e => cases hbefore
    | ok m =>
      have hm : (a.apply m).terminal = false := by
        rw [terminal_apply, ha, Bool.false_or]
        exact hnone m List.mem_cons_self
      rw [List.cons_append, gather, hm]
      exact ih hm hbefore fun m' hm' => hnone m' (List.mem_cons_of_mem _ hm')

theorem finalize_of_terminal (ha : a.terminal = true) :
    (∃ answer, a.finalize = .ok answer) ∨ a.finalize = .error .noAnswer := by
  unfold finalize
  rw [if_pos ha]
  cases a.text? with
  | none => exact Or.inr rfl
  | some text => exact Or.inl ⟨_, rfl⟩

end Assembly

/-- What a failed push delivers. -/
def StreamReader.refusal : Except Failure LineDecoder → List Delivery
  | .error e => [.error e]
  | .ok _ => []

theorem StreamReader.run_chunks (lines : LineDecoder) (frames : FrameReader)
    (chunks : List (List UInt8)) :
    ((⟨lines, frames, false⟩ : StreamReader).run [] (chunks.map .chunk)).2 =
      Delivery.upToFailure
        ((frames.feedAll (lines.pushAll chunks).1).2.filterMap Delivery.ofFrame? ++
        refusal (lines.pushAll chunks).2) := by
  induction chunks generalizing lines frames with
  | nil => rfl
  | cons bytes chunks ih =>
    have hfeed : (⟨lines, frames, false⟩ : StreamReader).feed (.chunk bytes) =
      (⟨lines, frames, false⟩ : StreamReader).feedChunk bytes := rfl
    rw [List.map_cons, run_cons, hfeed]
    simp only [feedChunk, takeLines, LineDecoder.pushAll]
    rcases lines.push bytes with ⟨lines', e | texts⟩
    · rw [run_of_failed rfl]
      simp [refusal]
    · simp only [FrameReader.feedAll_append, List.filterMap_append, List.append_assoc]
      cases hok : Delivery.allOk ((frames.feedAll texts).2.filterMap Delivery.ofFrame?) with
      | true =>
        simp only [Delivery.ofFrames, Delivery.upToFailure_of_allOk hok,
          Delivery.upToFailure_append hok, hok, Bool.not_true, ih]
      | false =>
        simp only [Delivery.ofFrames, Delivery.allOk_upToFailure,
          Delivery.upToFailure_append_of_failure hok, hok, Bool.not_false]
        rw [run_of_failed rfl, List.append_nil]

/-- Deliveries of some chunks, made before the body goes on. -/
def reached (chunks : List (List UInt8)) : List Delivery :=
  (StreamReader.start.run [] (chunks.map .chunk)).2

/-- A body that goes on behind the chunks. -/
def Body.Continues (chunks : List (List UInt8)) (body : Body) : Prop :=
  ∃ rest, body.arrivals.map Prod.snd = chunks.map .chunk ++ rest

/-- A body that ends behind its chunks. -/
def Body.ofChunks (chunks : List (List UInt8)) : Body :=
  ⟨chunks.map fun bytes => (.zero, .chunk bytes), .closes .zero⟩

namespace Body

variable {chunks : List (List UInt8)} {body : Body}

theorem continues_ofChunks (chunks : List (List UInt8)) : Continues chunks (ofChunks chunks) := by
  refine ⟨[], ?_⟩
  rw [ofChunks, List.map_map, List.append_nil]
  rfl

theorem Continues.deliveries_eq (h : Continues chunks body) :
    ∃ later, body.deliveries = reached chunks ++ later := by
  obtain ⟨rest, hrest⟩ := h
  rw [deliveries, hrest, messages, StreamReader.run_append]
  exact ⟨_, List.append_assoc _ _ _⟩

section Final

variable (hfinal : ∃ d ∈ reached chunks, Delivery.isFinal d = true) (h : Continues chunks body)
include hfinal h

theorem Continues.settles : body.Settles := by
  obtain ⟨d, hd, hdfinal⟩ := hfinal
  obtain ⟨rest, hrest⟩ := h
  intro _
  refine ⟨d, ?_, hdfinal⟩
  rw [hrest, StreamReader.run_append]
  exact List.mem_append_left _ hd

theorem Continues.outcome_eq :
    outcome (.ok body) = Assembly.empty.gather (reached chunks) >>= Assembly.finalize := by
  obtain ⟨later, hlater⟩ := h.deliveries_eq
  rw [outcome, hlater, Assembly.gather_append_of_final hfinal]

theorem Continues.attemptEvents_eq (r : Request) :
    attemptEvents r (.ok body) =
      [.entered .rateLimited, .admitted, .entered .connecting, .sent r, .entered .streaming] ++
        (Assembly.empty.progressChanges (Delivery.taken (reached chunks))).map .progressed := by
  obtain ⟨later, hlater⟩ := h.deliveries_eq
  rw [attemptEvents, hlater, Delivery.taken_append_of_final hfinal]
  rfl

end Final
end Body

/-- The lines that some chunks have completed, up to the first that cannot be read. -/
def completed (chunks : List (List UInt8)) : List String :=
  (goodLines LineDecoder.defaultLimit chunks.flatten).map lineText

theorem pushAll_of_acceptable {chunks : List (List UInt8)}
    (h : Acceptable LineDecoder.defaultLimit chunks.flatten) :
    LineDecoder.pushAll (.empty LineDecoder.defaultLimit) chunks =
      (completed chunks, .ok ⟨LineDecoder.defaultLimit, (splitLines chunks.flatten).2⟩) := by
  have hgood : goodLines LineDecoder.defaultLimit chunks.flatten =
      (splitLines chunks.flatten).1 := by
    rw [goodLines, List.takeWhile_eq_self_iff]
    intro line hline
    exact decide_eq_true (h.1 line hline)
  rw [LineDecoder.pushAll_eq_ok_iff, completed, hgood]
  exact ⟨h, rfl, rfl⟩

theorem pushAll_of_not_acceptable {chunks : List (List UInt8)}
    (h : ¬ Acceptable LineDecoder.defaultLimit chunks.flatten) :
    (LineDecoder.pushAll (.empty LineDecoder.defaultLimit) chunks).1 <+: completed chunks ∧
      ∃ e, (LineDecoder.pushAll (.empty LineDecoder.defaultLimit) chunks).2 = .error e :=
  @LineDecoder.pushAll_of_not_acceptable LineDecoder.defaultLimit [] chunks (by simp)
    (Nat.zero_le _) h

/-- The lines that some chunks have completed close a frame with a terminal message, and nothing has
failed in front of it. -/
structure Terminated (chunks : List (List UInt8)) (before : List Delivery) (m : Message) :
    Prop where
  closes : ∃ after,
    (FrameReader.empty.feedAll (completed chunks)).2.filterMap Delivery.ofFrame? =
    before ++ .ok m :: after
  allOk : Delivery.allOk before = true
  terminal : m.terminal = true

namespace Terminated

variable {chunks : List (List UInt8)} {before : List Delivery} {m : Message}

/-- The chunks deliver the terminal message, or their decoder has failed in front of it. -/
theorem reached_cases (h : Terminated chunks before m) :
    (∃ more, reached chunks = before ++ .ok m :: more) ∨
      ∃ ds e, ds <+: before ∧ reached chunks = ds ++ [.error e] ∧
        (LineDecoder.pushAll (.empty LineDecoder.defaultLimit) chunks).2 = .error e := by
  obtain ⟨after, hclosed⟩ := h.closes
  have hreached : reached chunks = Delivery.upToFailure _ :=
    StreamReader.run_chunks (.empty LineDecoder.defaultLimit) .empty chunks
  have hcut (more : List Delivery) :
      Delivery.upToFailure (before ++ .ok m :: more) =
        before ++ .ok m :: Delivery.upToFailure more := by
    have hfirst : Delivery.allOk (before ++ [.ok m]) = true := by
      rw [Delivery.allOk_append, h.allOk]
      rfl
    rw [List.append_cons, Delivery.upToFailure_append hfirst, ← List.append_cons]
  by_cases hgood : Acceptable LineDecoder.defaultLimit chunks.flatten
  · rw [pushAll_of_acceptable hgood, hclosed, List.append_assoc, List.cons_append, hcut] at hreached
    exact Or.inl ⟨_, hreached⟩
  · obtain ⟨hlines, e, hresult⟩ := pushAll_of_not_acceptable hgood
    have hframes := (FrameReader.feedAll_prefix .empty hlines).filterMap Delivery.ofFrame?
    rw [hclosed] at hframes
    rw [hresult] at hreached
    generalize (FrameReader.empty.feedAll
      (LineDecoder.pushAll (.empty LineDecoder.defaultLimit) chunks).1).2.filterMap
      Delivery.ofFrame? = ds
      at hframes hreached
    have hall : before ++ [.ok m] <+: before ++ .ok m :: after :=
      ⟨after, (List.append_cons _ _ _).symm⟩
    have hdelivered : before ++ [.ok m] <+: ds →
        ∃ more, reached chunks = before ++ .ok m :: more := by
      rintro ⟨more, rfl⟩
      rw [List.append_assoc, List.append_assoc, List.singleton_append, hcut] at hreached
      exact ⟨_, hreached⟩
    rcases List.prefix_or_prefix_of_prefix hframes hall with hless | hmore
    · rcases List.prefix_concat_iff.mp hless with rfl | hless
      · exact Or.inl (hdelivered List.prefix_rfl)
      · have hok := Delivery.allOk_of_prefix hless h.allOk
        rw [Delivery.upToFailure_append hok, StreamReader.refusal, Delivery.upToFailure_singleton]
          at hreached
        exact Or.inr ⟨ds, e, hless, hreached, hresult⟩
    · exact Or.inl (hdelivered hmore)

theorem exists_final (h : Terminated chunks before m) :
    ∃ d ∈ reached chunks, Delivery.isFinal d = true := by
  rcases h.reached_cases with ⟨more, hreached⟩ | ⟨ds, e, -, hreached, -⟩
  · exact ⟨.ok m, by simp [hreached], h.terminal⟩
  · exact ⟨.error e, by simp [hreached], rfl⟩

theorem gather_reached (h : Terminated chunks before m)
    (hdelivered : ∃ m', .ok m' ∈ reached chunks ∧ m'.terminal = true) :
    Assembly.empty.gather (reached chunks) =
      .ok (Assembly.empty.applyAll (Delivery.taken (before ++ [.ok m]))) := by
  rcases h.reached_cases with ⟨more, hreached⟩ | ⟨ds, e, ⟨rest, hrest⟩, hreached, -⟩
  · rw [hreached]
    exact Assembly.gather_of_terminal rfl h.allOk h.terminal more
  · obtain ⟨m', hmem, hm'⟩ := hdelivered
    have hds : .ok m' ∈ ds := by simpa [hreached] using hmem
    obtain ⟨first, later, rfl⟩ := List.append_of_mem hds
    have hfirst : Delivery.allOk first = true :=
      Delivery.allOk_of_prefix ⟨.ok m' :: later ++ rest, by simp [← hrest]⟩ h.allOk
    have hfinal : ∃ d ∈ first ++ [.ok m'], Delivery.isFinal d = true := ⟨.ok m', by simp, hm'⟩
    have htaken (more : List Delivery) :
        Delivery.taken (first ++ .ok m' :: more) = Delivery.taken (first ++ [.ok m']) := by
      rw [List.append_cons, Delivery.taken_append_of_final hfinal]
    rw [hreached, ← hrest]
    simp only [List.append_assoc, List.cons_append]
    rw [Assembly.gather_of_terminal rfl hfirst hm', htaken (later ++ (rest ++ [Except.ok m]))]

theorem gather_refused (h : Terminated chunks before m)
    (hnone : ∀ m', .ok m' ∈ reached chunks → m'.terminal = false) :
    ∃ e, (LineDecoder.pushAll (.empty LineDecoder.defaultLimit) chunks).2 = .error e ∧
      Assembly.empty.gather (reached chunks) = .error e := by
  rcases h.reached_cases with ⟨more, hreached⟩ | ⟨ds, e, hless, hreached, hresult⟩
  · have hm := hnone m (by simp [hreached])
    rw [h.terminal] at hm
    cases hm
  · have hok := Delivery.allOk_of_prefix hless h.allOk
    have hds (m' : Message) (hm' : .ok m' ∈ ds) : m'.terminal = false :=
      hnone m' (by simp [hreached, hm'])
    refine ⟨e, hresult, ?_⟩
    rw [hreached]
    exact Assembly.gather_of_failure rfl hok hds e []

theorem reached_of_acceptable (h : Terminated chunks before m)
    (hgood : Acceptable LineDecoder.defaultLimit chunks.flatten) :
    ∃ more, reached chunks = before ++ .ok m :: more := by
  rcases h.reached_cases with hreached | ⟨ds, e, -, -, hresult⟩
  · exact hreached
  · rw [pushAll_of_acceptable hgood] at hresult
    cases hresult

end Terminated

open Call (Yields) in
/-- Behind chunks whose lines close a frame with a terminal message, an attempt ends as if the body
had ended there, with what its observers have been told, in whatever way the body goes on. If a
terminal message is delivered, it comes to an answer, or finds that there is none, by the messages
up to the first one alone. It is delivered if the chunks hold no bad line, and if it is not, the
attempt fails as the decoder has. -/
theorem attempt_of_terminal {chunks : List (List UInt8)} {before : List Delivery} {m : Message}
    (h : Terminated chunks before m) :
    (∀ (w : Surroundings σ), w.Calm → ∀ body, Body.Continues chunks body →
      ∀ r t t' delay, w.transport.stream t r = (t', .after delay (.ok body)) →
        Yields (w.attempt r) t (outcome (.ok (.ofChunks chunks))) t'
          ((attemptEvents r (.ok (.ofChunks chunks))).filter w.watch.sees)) ∧
    ((∃ m', .ok m' ∈ reached chunks ∧ m'.terminal = true) →
      ((∃ answer, outcome (.ok (.ofChunks chunks)) = .ok answer) ∨
        outcome (.ok (.ofChunks chunks)) = .error .noAnswer) ∧
      outcome (.ok (.ofChunks chunks)) =
        (Assembly.empty.applyAll (Delivery.taken (before ++ [.ok m]))).finalize) ∧
    (Sse.Acceptable LineDecoder.defaultLimit chunks.flatten →
      ∃ m', .ok m' ∈ reached chunks ∧ m'.terminal = true) ∧
    ((∀ m', .ok m' ∈ reached chunks → m'.terminal = false) →
      ∃ e, (LineDecoder.pushAll (.empty LineDecoder.defaultLimit) chunks).2 = .error e ∧
        outcome (.ok (.ofChunks chunks)) = .error e) := by
  have hfinal := h.exists_final
  have hended := Body.continues_ofChunks chunks
  refine ⟨?same, ?decided, ?acceptable, ?refused⟩
  case same =>
    intro w hw body hbody r t t' delay hreply
    have hattempt := hw.attempt hreply fun body' hbody' => by
      cases hbody'
      exact hbody.settles hfinal
    rw [Surroundings.attempted_eq, hbody.attemptEvents_eq hfinal, hbody.outcome_eq hfinal]
      at hattempt
    rw [hended.outcome_eq hfinal, hended.attemptEvents_eq hfinal]
    exact hattempt
  case decided =>
    intro hdelivered
    have houtcome : outcome (.ok (.ofChunks chunks)) =
        (Assembly.empty.applyAll (Delivery.taken (before ++ [.ok m]))).finalize := by
      rw [hended.outcome_eq hfinal, h.gather_reached hdelivered]
      rfl
    have hterminal :
        (Assembly.empty.applyAll (Delivery.taken (before ++ [.ok m]))).terminal = true := by
      rw [Assembly.terminal_applyAll, Delivery.any_terminal_taken h.allOk h.terminal]
    refine ⟨?_, houtcome⟩
    rw [houtcome]
    exact Assembly.finalize_of_terminal hterminal
  case acceptable =>
    intro hgood
    obtain ⟨more, hreached⟩ := h.reached_of_acceptable hgood
    exact ⟨m, by simp [hreached], h.terminal⟩
  case refused =>
    intro hnone
    obtain ⟨e, hresult, hgather⟩ := h.gather_refused hnone
    refine ⟨e, hresult, ?_⟩
    rw [hended.outcome_eq hfinal, hgather]
    rfl

namespace Client
open Call (Yields)

/-- A plan, and then an answer with another message behind it. -/
def settled : List (List UInt8) :=
  [Utf8.encode ("data: " ++ planning ++ "\n\n"),
    Utf8.encode ("data: " ++ answering ++ "\n\ndata: \x7b\x7d\n\n")]

theorem ofFrame?_answering : Delivery.ofFrame? ⟨none, answering⟩ = some (.ok answered) := by
  have hpayload : Message.ofPayload answering = .ok answered := by with_unfolding_all rfl
  have hblank : Text.isBlank answering = false := by decide
  simp [Delivery.ofFrame?, Message.ofFrame, hblank, hpayload, Except.map]

theorem terminated_settled : Terminated settled [.ok planned] answered := by
  have hlines : completed settled =
      ["data: " ++ planning, "", "data: " ++ answering, "", "data: \x7b\x7d", ""] := by
        decide +kernel
  have hframes : (FrameReader.empty.feedAll
      ["data: " ++ planning, "", "data: " ++ answering, "", "data: \x7b\x7d", ""]).2 =
        [⟨none, planning⟩, ⟨none, answering⟩, ⟨none, "\x7b\x7d"⟩] := by decide +kernel
  refine ⟨⟨[⟨none, "\x7b\x7d"⟩].filterMap Delivery.ofFrame?, ?_⟩, rfl, rfl⟩
  rw [hlines, hframes, List.filterMap_cons_some ofFrame?_planning,
    List.filterMap_cons_some ofFrame?_answering]
  rfl

theorem acceptable_settled : Sse.Acceptable LineDecoder.defaultLimit settled.flatten := by
  unfold Acceptable
  decide +kernel

/-- Neither octets that are no text nor silence behind the answer change anything. -/
theorem attempt_of_terminal_settled :
    let spoilt : Body :=
      ⟨(settled ++ [[0xff, 0x0a]]).map fun bytes => (.zero, .chunk bytes), .never⟩
    let w : Surroundings Nat := ⟨counting fun _ => .ok spoilt, id, none, fun _ => false, .all⟩
    ∀ r, Yields (w.attempt r) 0 (.ok ⟨"yes", [], "pending", none⟩) 1
      [.entered .rateLimited, .admitted, .entered .connecting, .sent r, .entered .streaming,
        .progressed ⟨some "reading", none, [], none⟩] := by
  intro spoilt w r
  have hcontinues : Body.Continues settled spoilt := by
    have harrivals : spoilt.arrivals =
        (settled ++ [[0xff, 0x0a]]).map fun bytes => (Duration.zero, Arrival.chunk bytes) := rfl
    refine ⟨[.chunk [0xff, 0x0a]], ?_⟩
    rw [harrivals, List.map_map, List.map_append]
    rfl
  obtain ⟨hsame, hdecided, hdelivered, -⟩ :=
    @attempt_of_terminal Nat settled [.ok planned] answered terminated_settled
  obtain ⟨-, houtcome⟩ := hdecided (hdelivered acceptable_settled)
  have hrun := hsame w ⟨rfl, fun _ => rfl⟩ spoilt hcontinues r 0 1 .zero rfl
  have hanswer : (Assembly.empty.applyAll [planned, answered]).finalize =
      .ok ⟨"yes", [], "pending", none⟩ := by decide +kernel
  have hprogress : Assembly.empty.progressChanges [planned, answered] =
      [⟨some "reading", none, [], none⟩] := by decide +kernel
  have hevents := (Body.continues_ofChunks settled).attemptEvents_eq
      terminated_settled.exists_final r
  obtain ⟨more, hreached⟩ := terminated_settled.reached_of_acceptable acceptable_settled
  have htaken : Delivery.taken (reached settled) = [planned, answered] := by
    rw [hreached]
    rfl
  rw [htaken, hprogress] at hevents
  rw [houtcome, hevents, show Delivery.taken ([.ok planned] ++ [.ok answered]) =
    [planned, answered] from rfl, hanswer] at hrun
  exact hrun

/-- An answer, with a line that is no text behind it in the same chunk. -/
def curtailed : List (List UInt8) := [Utf8.encode ("data: " ++ answering ++ "\n\n") ++ [0xff, 0x0a]]

theorem terminated_curtailed : Terminated curtailed [] answered := by
  have hlines : completed curtailed = ["data: " ++ answering, ""] := by decide +kernel
  have hframes : (FrameReader.empty.feedAll ["data: " ++ answering, ""]).2 =
      [⟨none, answering⟩] := by
    decide +kernel
  refine ⟨⟨[], ?_⟩, rfl, rfl⟩
  rw [hlines, hframes]
  simp [ofFrame?_answering]

/-- The answer is lost with its chunk. -/
theorem not_decided_curtailed : ¬ ∀ chunks before m, Terminated chunks before m →
    (∃ answer, outcome (.ok (.ofChunks chunks)) = .ok answer) ∨
      outcome (.ok (.ofChunks chunks)) = .error .noAnswer := by
  intro hall
  have hlost : outcome (.ok (.ofChunks curtailed)) =
      .error (.malformedFrame .invalidUtf8 "\uFFFD") := by
    decide +kernel
  rcases hall curtailed [] answered terminated_curtailed with ⟨answer, h⟩ | h
  · rw [hlost] at h
    cases h
  · rw [hlost] at h
    cases h

end Client
end AnswerStream
