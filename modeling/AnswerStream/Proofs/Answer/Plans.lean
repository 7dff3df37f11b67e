import AnswerStream.Proofs.Answer.History

/-!
The research plan read off the history of the writes. More than one field reports on progress, and
the latest plan is that of the last surviving report with a plan in it. The assembly asks the last
report alone. So it finds the latest plan unless the last report is without one and hides an earlier
report that has one.
-/

namespace AnswerStream
open Json (Value)

namespace Progress

/-- It holds an object for a plan, and not an empty one. -/
def Planned (content : Value) : Prop :=
  ∃ member members, content.get? "plan_block" = some (.object (member :: members))

theorem ofContent?_ne_none_iff {content : Value} : ofContent? content ≠ none ↔ Planned content := by
  unfold ofContent? Planned
  cases content.get? "plan_block" with
  | none => simp
  | some plan =>
    cases plan with
    | object members => cases members <;> simp
    | _ => simp

theorem ofContent?_eq_none_iff {content : Value} :
    ofContent? content = none ↔ ¬ Planned content := by
  rw [← ofContent?_ne_none_iff, not_not]

end Progress

namespace History
open Progress (Planned)

/-- The surviving writes that report on progress. -/
def reports (ws : List Block) : List Block :=
  (surviving Block.field ws).filter fun b => b.kind = .progress

def plan? (b : Block) : Option Progress := Progress.ofContent? b.update.content

/-- The plan of the last report that has one. -/
def latestPlan? (ws : List Block) : Option Progress := (reports ws).reverse.findSome? plan?

/-- The last report has no plan, but one before it has. -/
def Hidden (ws : List Block) : Prop :=
  ∃ earlier last, reports ws = earlier ++ [last] ∧ ¬ Planned last.update.content ∧
    ∃ b ∈ earlier, Planned b.update.content

theorem latestPlan?_eq_none_iff {ws : List Block} :
    latestPlan? ws = none ↔ ∀ b ∈ reports ws, ¬ Planned b.update.content := by
  simp only [latestPlan?, List.findSome?_eq_none_iff, List.mem_reverse, plan?,
    Progress.ofContent?_eq_none_iff]

theorem latestPlan?_of_hidden {ws : List Block} (h : Hidden ws) : latestPlan? ws ≠ none := by
  obtain ⟨earlier, last, hreports, -, b, hb, hplan⟩ := h
  rw [Ne, latestPlan?_eq_none_iff, hreports]
  exact fun hnone => hnone b (List.mem_append_left _ hb) hplan

theorem latestPlan?_of_not_hidden {ws : List Block} (h : ¬ Hidden ws) :
    latestPlan? ws = (reports ws).getLast?.bind plan? := by
  obtain hreports | ⟨earlier, last, hreports⟩ := List.eq_nil_or_concat (reports ws)
  · rw [latestPlan?, hreports]
    rfl
  · rw [List.concat_eq_append] at hreports
    rw [latestPlan?, hreports, List.reverse_concat, List.findSome?_cons, List.getLast?_concat,
      Option.bind_some]
    cases hlast : plan? last with
    | some p => rfl
    | none =>
      have hplan : ¬ Planned last.update.content := Progress.ofContent?_eq_none_iff.mp hlast
      rw [List.findSome?_eq_none_iff]
      intro b hb
      rw [plan?, Progress.ofContent?_eq_none_iff]
      exact fun hearlier => h ⟨earlier, last, hreports, hplan, b, List.mem_reverse.mp hb, hearlier⟩

theorem Hidden.plan?_getLast? {ws : List Block} (h : Hidden ws) :
    (reports ws).getLast?.bind plan? = none := by
  obtain ⟨earlier, last, hreports, hplan, -⟩ := h
  rw [hreports, List.getLast?_concat, Option.bind_some, plan?]
  exact Progress.ofContent?_eq_none_iff.mpr hplan

end History

namespace Assembly
open History (ofMessages reports latestPlan? Hidden)
open Progress (Planned)

theorem Holds.progress? {a : Assembly} {ws : List Block} (h : a.Holds ws) :
    a.progress? = (reports ws).getLast?.bind History.plan? := by
  have hreports : reports ws =
      ((numbered ws).filter fun w => w.1.kind = .progress).map Prod.fst := by
    rw [reports, ← map_numbered, List.filter_map]
    rfl
  rw [Assembly.progress?, latest?, h.ofKind, hreports, List.map_reverse, List.head?_reverse,
    List.getLast?_map, List.getLast?_map]
  cases ((numbered ws).filter fun w => w.1.kind = .progress).getLast? <;> rfl

/-- The progress after some messages is their latest plan just if that is not hidden, and none if it
is. There is no latest plan only where no report has a plan. -/
theorem progress?_eq_latestPlan? (ms : List Message) :
    ((empty.applyAll ms).progress? = latestPlan? (ofMessages ms) ↔ ¬ Hidden (ofMessages ms)) ∧
      (Hidden (ofMessages ms) → (empty.applyAll ms).progress? = none) ∧
      (latestPlan? (ofMessages ms) = none ↔
       ∀ b ∈ reports (ofMessages ms), ¬ Planned b.update.content) := by
  have hholds := holds_empty.applyAll ms
  rw [List.nil_append] at hholds
  rw [hholds.progress?]
  refine ⟨⟨fun heq hhidden => ?_, fun hhidden => (History.latestPlan?_of_not_hidden hhidden).symm⟩,
    History.Hidden.plan?_getLast?, History.latestPlan?_eq_none_iff⟩
  exact History.latestPlan?_of_hidden hhidden (heq.symm.trans hhidden.plan?_getLast?)

/-- A report with a plan of one step. -/
def planned (field step : String) : Block :=
  ⟨field, .progress, .snapshot (.object [("plan_block", .object [("progress", .text step)])])⟩

def planless (field : String) : Block := ⟨field, .progress, .snapshot (.object [])⟩

def reporting (blocks : List Block) : Message :=
  ⟨.inProgress, none, false, false, none, none, blocks⟩

/-- A plan, and behind it a report without one from the other field. -/
def overtaken : List Message := [reporting [planned "plan" "first", planless "pro_search_steps"]]

theorem reports_overtaken :
    reports (ofMessages overtaken) = [planned "plan" "first"] ++ [planless "pro_search_steps"] := by
      rfl

theorem hidden_overtaken : Hidden (ofMessages overtaken) := by
  refine ⟨_, _, reports_overtaken, ?_, _, List.mem_cons_self, _, _, rfl⟩
  rintro ⟨member, members, hplan⟩
  cases hplan

/-- The plan is hidden until its own field reports again. -/
theorem progress?_eq_latestPlan?_rewritten :
    let ms := overtaken ++ [reporting [planned "plan" "second"]]
    Hidden (ofMessages overtaken) ∧ (empty.applyAll overtaken).progress? = none ∧
      (empty.applyAll ms).progress? = some ⟨some "second", none, [], none⟩ := by
  intro ms
  obtain ⟨-, hnone, -⟩ := progress?_eq_latestPlan? overtaken
  obtain ⟨hfound, -, -⟩ := progress?_eq_latestPlan? ms
  have hreports : reports (ofMessages ms) = [planless "pro_search_steps"] ++
      [planned "plan" "second"] := by
    rfl
  have hshown : ¬ Hidden (ofMessages ms) := by
    rintro ⟨earlier, last, hlast, hplan, -⟩
    obtain ⟨-, hsame⟩ := List.append_inj' (hlast.symm.trans hreports) rfl
    obtain rfl := List.singleton_inj.mp hsame
    exact hplan ⟨_, _, rfl⟩
  exact ⟨hidden_overtaken, hnone hidden_overtaken, hfound.mpr hshown⟩

/-- A plan is lost behind a report without one. -/
theorem not_always_latestPlan? :
    ¬ ∀ ms, (∃ b ∈ reports (ofMessages ms), Planned b.update.content) →
      (empty.applyAll ms).progress? ≠ none := by
  intro h
  have hholds := holds_empty.applyAll overtaken
  rw [List.nil_append] at hholds
  refine h overtaken ⟨planned "plan" "first", ?_, _, _, rfl⟩ ?_
  · rw [reports_overtaken]
    exact List.mem_cons_self
  · rw [hholds.progress?]
    exact hidden_overtaken.plan?_getLast?

end Assembly
end AnswerStream
