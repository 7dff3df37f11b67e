import AnswerStream.Proofs.Client.Observing

/-!
The status of an answer. An assembly stays terminal once it has taken a terminal message, but its
status is that of the last message, terminal or not. So a message behind the terminal one replaces
the status of the answer, even if it changes nothing else. An attempt reads no further than the
terminal message, and its answer has the status of that one.
-/

namespace AnswerStream

namespace History

/-- A terminal message has this status. -/
def ClosedAs (ms : List Message) (status : String) : Prop :=
  ∃ m ∈ ms, m.terminal = true ∧ m.status.label = status

/-- The last message is not terminal and has a status that no terminal message in front of it has.
-/
def Overruled (ms : List Message) : Prop :=
  ∃ earlier last, ms = earlier ++ [last] ∧ last.terminal = false ∧
    ¬ ClosedAs earlier last.status.label

theorem closedAs_concat_iff {earlier : List Message} {last : Message} {status : String} :
    ClosedAs (earlier ++ [last]) status ↔
      ClosedAs earlier status ∨ last.terminal = true ∧ last.status.label = status := by
  simp only [ClosedAs, List.mem_append, List.mem_singleton, or_and_right, exists_or, exists_eq_left]

theorem closedAs_lastStatus_iff {ms : List Message} (h : ms ≠ []) :
    ClosedAs ms (lastStatus ms).label ↔ ¬ Overruled ms := by
  obtain rfl | ⟨earlier, last, rfl⟩ := List.eq_nil_or_concat ms
  · exact absurd rfl h
  · rw [List.concat_eq_append, lastStatus, List.getLast?_concat, closedAs_concat_iff]
    constructor
    · rintro hclosed ⟨earlier', last', hms, hopen, hnone⟩
      obtain ⟨rfl, hlast⟩ := List.append_inj' hms rfl
      obtain rfl := List.singleton_inj.mp hlast
      rcases hclosed with hearlier | ⟨hterminal, -⟩
      · exact hnone hearlier
      · rw [hopen] at hterminal
        cases hterminal
    · intro hoverruled
      by_contra hnone
      obtain ⟨hearlier, hlast⟩ := not_or.mp hnone
      have hopen : last.terminal = false := by
        by_contra hterminal
        exact hlast ⟨by simpa using hterminal, rfl⟩
      exact hoverruled ⟨earlier, last, rfl, hopen, hearlier⟩

end History

namespace Assembly
open History (ClosedAs Overruled lastStatus)

variable {a : Assembly}

theorem finalize_eq_ok {answer : Answer} (h : a.finalize = .ok answer) :
    a.terminal = true ∧ answer.status = a.status.label := by
  rw [finalize] at h
  split at h
  · next hterminal =>
    refine ⟨hterminal, ?_⟩
    split at h
    · rw [← Except.ok.inj h]
    · cases h
  · cases h

theorem finalize_apply_of_no_blocks {m : Message} (hblocks : m.blocks = [])
    (hopen : m.terminal = false) :
    (a.apply m).finalize =
      a.finalize.map fun answer =>
        { answer with
          status := m.status.label
          threadSlug := (m.threadSlug <|> answer.threadSlug) } := by
  have happly : a.apply m =
      { a with
        status := m.status
        threadSlug := (m.threadSlug <|> a.threadSlug)
        messageCount := a.messageCount + 1 } := by
    simp [apply, hblocks, hopen]
  have htext : (a.apply m).text? = a.text? := by rw [happly]; rfl
  have hreferences : (a.apply m).references = a.references := by rw [happly]; rfl
  rw [finalize, finalize, htext, hreferences, happly]
  cases a.terminal with
  | false => rfl
  | true => cases a.text? <;> rfl

/-- Gathering ends with the first terminal message, so that the status is that of this message. -/
theorem exists_terminal_of_gather {a' : Assembly} {ds : List Delivery} (ha : a.terminal = false)
    (h : a.gather ds = .ok a') (ha' : a'.terminal = true) :
    ∃ m, .ok m ∈ ds ∧ m.terminal = true ∧ a'.status = m.status := by
  induction ds generalizing a with
  | nil =>
    cases h
    rw [ha] at ha'
    cases ha'
  | cons d rest ih =>
    cases d with
    | error e => cases h
    | ok m =>
      have hm : (a.apply m).terminal = m.terminal := by rw [terminal_apply, ha, Bool.false_or]
      rw [gather, hm] at h
      cases hterminal : m.terminal with
      | true =>
        rw [hterminal, if_pos rfl] at h
        exact ⟨m, List.mem_cons_self, hterminal, by rw [← Except.ok.inj h, apply]⟩
      | false =>
        rw [hterminal, if_neg Bool.false_ne_true] at h
        obtain ⟨m', hmem, hm'⟩ := ih (hm.trans hterminal) h
        exact ⟨m', List.mem_cons_of_mem _ hmem, hm'⟩

/-- An answer has the status of the last message. That is the status of a terminal message unless
the last one overrules it, as messages can that change nothing else. What an attempt answers always
has the status of a terminal message. -/
theorem status_of_finalize (ms : List Message) (body : Body) :
    (∀ answer, (empty.applyAll ms).finalize = .ok answer →
      answer.status = (lastStatus ms).label ∧ (ClosedAs ms answer.status ↔ ¬ Overruled ms)) ∧
    (∀ m, m.blocks = [] → m.terminal = false →
      (empty.applyAll (ms ++ [m])).finalize =
        (empty.applyAll ms).finalize.map fun answer =>
          { answer with
            status := m.status.label
            threadSlug := (m.threadSlug <|> answer.threadSlug) }) ∧
    ∀ answer, outcome (.ok body) = .ok answer →
      ∃ m, .ok m ∈ body.deliveries ∧ m.terminal = true ∧ m.status.label = answer.status := by
  refine ⟨fun answer h => ?_, fun m hblocks hopen => ?_, fun answer h => ?_⟩
  · obtain ⟨hterminal, hstatus⟩ := finalize_eq_ok h
    have hne : ms ≠ [] := by
      rintro rfl
      cases hterminal
    rw [status_applyAll] at hstatus
    rw [hstatus]
    exact ⟨rfl, History.closedAs_lastStatus_iff hne⟩
  · rw [applyAll_append_singleton]
    exact finalize_apply_of_no_blocks hblocks hopen
  · rw [outcome] at h
    cases hgather : empty.gather body.deliveries with
    | error e =>
      rw [hgather] at h
      cases h
    | ok gathered =>
      rw [hgather] at h
      obtain ⟨hterminal, hstatus⟩ := finalize_eq_ok h
      obtain ⟨m, hmem, hm, hlast⟩ := exists_terminal_of_gather rfl hgather hterminal
      exact ⟨m, hmem, hm, by rw [hstatus, hlast]⟩

/-- An answer that is complete, and a note behind it that the query is running. -/
def reopened : List Message :=
  [⟨.completed, none, true, false, none, none,
      [⟨"ask_text", .answerText, .snapshot (.object [("text", .text "Paris")])⟩]⟩,
    ⟨.inProgress, none, false, false, none, none, []⟩]

theorem finalize_reopened :
    (empty.applyAll reopened).finalize = .ok ⟨"Paris", [], "in_progress", none⟩ := by decide +kernel

/-- The note overrules the status of the answer; an attempt that has its answer does not read on,
though the body is still open. -/
theorem status_of_finalize_reopened :
    let body : Body :=
      ⟨[(.zero, .chunk (Utf8.encode ("data: " ++ Client.answering ++ "\n\n")))], .never⟩
    Overruled reopened ∧
      (empty.applyAll (reopened.take 1)).finalize = .ok ⟨"Paris", [], "completed", none⟩ ∧
      (empty.applyAll reopened).finalize = .ok ⟨"Paris", [], "in_progress", none⟩ ∧
      ∃ m, .ok m ∈ body.deliveries ∧ m.terminal = true ∧ m.status.label = "pending" := by
  intro body
  obtain ⟨-, hnote, hattempt⟩ := status_of_finalize (reopened.take 1) body
  obtain ⟨hexact, -, -⟩ := status_of_finalize reopened body
  have hfirst : (empty.applyAll (reopened.take 1)).finalize =
      .ok ⟨"Paris", [], "completed", none⟩ := by decide +kernel
  have hlast := hnote ⟨.inProgress, none, false, false, none, none, []⟩ rfl rfl
  rw [hfirst] at hlast
  obtain ⟨-, hiff⟩ := hexact _ hlast
  have hopen : ¬ ClosedAs reopened "in_progress" := by
    simp [ClosedAs, reopened, Status.label]
  exact ⟨not_not.mp (hiff.not.mp hopen), hfirst, hlast, hattempt _ Client.outcome_hesitant_two⟩

/-- A status that is not that of the terminal message. -/
theorem not_always_closedAs :
    ¬ ∀ ms answer, (empty.applyAll ms).finalize = .ok answer → ClosedAs ms answer.status := by
  intro h
  have hclosed := h reopened _ finalize_reopened
  simp [ClosedAs, reopened, Status.label] at hclosed

end Assembly
end AnswerStream
