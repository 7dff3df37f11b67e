import AnswerStream.Proofs.Answer.History
import AnswerStream.Proofs.Client.Outcome

/-!
What observers are told of a query. Its stages follow from the replies that its attempts meet, and
so does the progress of every attempt, which is told where a message has changed it; who does not
watch is told nothing, and that is all the difference that watching makes.
-/

namespace AnswerStream

variable {σ : Type}

namespace Watch

/-- Whether an observer sees an event. Admissions and requests happen whoever watches. -/
def sees (watch : Watch) : Event → Bool
  | .admitted | .sent _ => true
  | .entered _ => watch.stages
  | .progressed _ => watch.progress
  | .paged _ _ => watch.pages

end Watch

def Event.stage? : Event → Option Stage
  | .entered stage => some stage
  | _ => none

/-- The stages among events. -/
def stages (events : List Event) : List Stage := events.filterMap Event.stage?

theorem stages_append (as bs : List Event) : stages (as ++ bs) = stages as ++ stages bs :=
  List.filterMap_append

/-- The messages that an attempt takes from deliveries: none behind the first terminal one or a
failure. -/
def Delivery.taken : List Delivery → List Message
  | [] => []
  | .error _ :: _ => []
  | .ok m :: rest => if m.terminal then [m] else m :: taken rest

namespace Assembly

theorem terminal_apply (a : Assembly) (m : Message) :
    (a.apply m).terminal = (a.terminal || m.terminal) :=
  congrArg (· || m.terminal) (foldl_writeBlock a m.blocks).1

/-- The progress behind a message, where there is some and it is not what it was before the message.
-/
def progressChange? (a : Assembly) (m : Message) : Option Progress :=
  if (a.apply m).progress? = a.progress? then none else (a.apply m).progress?

/-- The progress that each message in turn changes. -/
def progressChanges (a : Assembly) (ms : List Message) : List Progress :=
  (List.range ms.length).filterMap fun i =>
    ms[i]?.bind fun m => (a.applyAll (ms.take i)).progressChange? m

theorem progressChanges_cons (a : Assembly) (m : Message) (ms : List Message) :
    a.progressChanges (m :: ms) = (a.progressChange? m).toList ++
      (a.apply m).progressChanges ms := by
  have hfirst (f : Nat → Option Progress) (indices : List Nat) :
      (0 :: indices).filterMap f = (f 0).toList ++ indices.filterMap f := by
    rw [List.filterMap_cons]
    cases f 0 <;> rfl
  unfold progressChanges
  rw [List.length_cons, List.range_succ_eq_map, hfirst, List.filterMap_map]
  rfl

theorem progress?_empty : empty.progress? = none := by
  simp [progress?, latest?, ofKind, empty]

end Assembly

namespace Gathering

variable {g : Gathering}

/-- What is shown is the progress of the assembly, so that only a change of it is told. -/
theorem notices_of_shown (hshown : g.shown = g.assembly.progress?) (m : Message) :
    g.notices true m = (g.assembly.progressChange? m).toList.map .progressed := by
  unfold notices Assembly.progressChange?
  rw [if_pos rfl, hshown]
  cases (g.assembly.apply m).progress? with
  | none => split <;> rfl
  | some p =>
    by_cases hsame : some p = g.assembly.progress?
    · rw [if_pos hsame, ← hsame]
      simp
    · rw [if_neg hsame]
      simp [hsame]

theorem addAll_of_watching (hshown : g.shown = g.assembly.progress?)
    (hopen : g.assembly.terminal = false) (ds : List Delivery) :
    (g.addAll true ds).1 = (g.assembly.progressChanges (Delivery.taken ds)).map .progressed := by
  induction ds generalizing g with
  | nil => rfl
  | cons d rest ih =>
    cases d with
    | error e => rfl
    | ok m =>
      have hm : (g.assembly.apply m).terminal = m.terminal := by
        rw [Assembly.terminal_apply, hopen, Bool.false_or]
      unfold addAll Delivery.taken
      rw [hm, notices_of_shown hshown]
      cases hlast : m.terminal with
      | true =>
        simp only [if_true, Assembly.progressChanges_cons]
        exact congrArg (List.map Event.progressed) (List.append_nil _).symm
      | false =>
        have hrest := @ih (g.add true m) rfl (hm.trans hlast)
        simp only [Bool.false_eq_true, if_false, Assembly.progressChanges_cons,
          List.map_append, hrest]
        rfl

theorem addAll_of_not_watching (ds : List Delivery) : (g.addAll false ds).1 = [] := by
  induction ds generalizing g with
  | nil => rfl
  | cons d rest ih =>
    cases d with
    | error e => rfl
    | ok m =>
      unfold addAll
      split
      · rfl
      · exact ih

end Gathering

/-- What there is to see of an attempt that meets a reply. -/
def attemptEvents (r : Request) (reply : Except TransportError Body) : List Event :=
  [.entered .rateLimited, .admitted, .entered .connecting, .sent r] ++
    match reply with
    | .error _ => []
    | .ok body =>
      .entered .streaming ::
        (Assembly.empty.progressChanges (Delivery.taken body.deliveries)).map .progressed

/-- What there is to see of a query whose attempts meet the first replies of a script. -/
def queryEvents (r : Request) (script : Nat → Except TransportError Body) (attempts : Nat)
    (result : Except Failure Answer) : List Event :=
  [.entered .idle] ++ ((List.range attempts).flatMap fun i => attemptEvents r (script i)) ++
    [.entered (.ofResult result)]

/-- The stages of an attempt: streaming only where the reply has a body. -/
def attemptStages : Except TransportError Body → List Stage
  | .error _ => [.rateLimited, .connecting]
  | .ok _ => [.rateLimited, .connecting, .streaming]

theorem stages_progressed (ps : List Progress) : stages (ps.map .progressed) = [] := by
  unfold stages
  rw [List.filterMap_map]
  exact List.filterMap_eq_nil_iff.mpr fun _ _ => rfl

theorem stages_attemptEvents (r : Request) (reply : Except TransportError Body) :
    stages (attemptEvents r reply) = attemptStages reply := by
  cases reply with
  | error e => rfl
  | ok body =>
    have hprogress := stages_progressed
        (Assembly.empty.progressChanges (Delivery.taken body.deliveries))
    change _ :: _ :: _ :: stages _ = _
    rw [hprogress]
    rfl

theorem stages_queryEvents (r : Request) (script : Nat → Except TransportError Body)
    (attempts : Nat) (result : Except Failure Answer) :
    stages (queryEvents r script attempts result) =
      [.idle] ++ ((List.range attempts).flatMap fun i => attemptStages (script i)) ++
        [.ofResult result] := by
  have hattempts : stages ((List.range attempts).flatMap fun i => attemptEvents r (script i)) =
      (List.range attempts).flatMap fun i => attemptStages (script i) := by
    unfold stages
    rw [List.filterMap_flatMap]
    exact congrArg (List.flatMap · _) (funext fun i => stages_attemptEvents r (script i))
  unfold queryEvents
  rw [stages_append, stages_append, hattempts]
  rfl

namespace Surroundings

variable {w : Surroundings σ}

theorem staged_eq (stage : Stage) : w.staged stage = [.entered stage].filter w.watch.sees := by
  unfold staged
  cases hwatch : w.watch.stages <;> simp [Watch.sees, hwatch]

theorem addAll_empty_eq (ds : List Delivery) :
    (Gathering.empty.addAll w.watch.progress ds).1 =
      ((Assembly.empty.progressChanges (Delivery.taken ds)).map .progressed).filter
      w.watch.sees := by
  cases hwatch : w.watch.progress with
  | true =>
    rw [Gathering.addAll_of_watching Assembly.progress?_empty.symm rfl, List.filter_eq_self.mpr]
    · rfl
    · intro e he
      obtain ⟨p, -, rfl⟩ := List.mem_map.mp he
      exact hwatch
  | false =>
    rw [Gathering.addAll_of_not_watching, eq_comm, List.filter_eq_nil_iff]
    intro e he
    obtain ⟨p, -, rfl⟩ := List.mem_map.mp he
    exact Bool.eq_false_iff.mp hwatch

theorem attempted_eq (r : Request) (reply : Except TransportError Body) :
    w.attempted r reply = (attemptEvents r reply).filter w.watch.sees := by
  have hstart : w.staged .rateLimited ++ [.admitted] ++ w.staged .connecting ++ [.sent r] =
      [.entered .rateLimited, .admitted, .entered .connecting, .sent r].filter w.watch.sees := by
    rw [staged_eq, staged_eq]
    cases hwatch : w.watch.stages <;> simp [List.filter_cons, Watch.sees, hwatch]
  unfold attempted attemptEvents
  rw [hstart, List.filter_append]
  cases reply with
  | error e => rfl
  | ok body =>
    dsimp only
    rw [staged_eq, addAll_empty_eq, ← List.filter_append, List.singleton_append]

/-- The surroundings with other observers. -/
def watchedBy (w : Surroundings σ) (watch : Watch) : Surroundings σ := { w with watch }

theorem Calm.watchedBy (hw : w.Calm) (watch : Watch) : (w.watchedBy watch).Calm :=
  ⟨hw.no_instant, hw.no_observer⟩

end Surroundings

/-- How many attempts a policy makes that would have these results, and what it reports in the end:
the first result that is no transient failure, or that there were too many of these. -/
inductive RetryPolicy.Concludes {α : Type} (policy : RetryPolicy)
    (results : Nat → Except Failure α) :
    (attempts : Nat) → Except Failure α → Prop
  | settled {k : Nat} (hk : k < policy.maxAttempts) (htransient : ∀ i < k, Transient (results i))
    (hfinal : ¬ Transient (results k)) : Concludes policy results (k + 1) (results k)
  | exhausted {e : Failure} (htransient : ∀ i < policy.maxAttempts, Transient (results i))
    (hlast : results (policy.maxAttempts - 1) = .error e) :
    Concludes policy results policy.maxAttempts (.error (.retryExhausted policy.maxAttempts e))

theorem transient_or_exists_first {α : Type} (results : Nat → Except Failure α) (n : Nat) :
    (∀ i < n, Transient (results i)) ∨
      ∃ k < n, (∀ i < k, Transient (results i)) ∧ ¬ Transient (results k) := by
  induction n with
  | zero => exact Or.inl fun i hi => absurd hi i.not_lt_zero
  | succ n ih =>
    rcases ih with hall | ⟨k, hk, hfirst⟩
    · by_cases hn : Transient (results n)
      · left
        intro i hi
        rcases Nat.lt_succ_iff_lt_or_eq.mp hi with hlt | rfl
        · exact hall i hlt
        · exact hn
      · exact Or.inr ⟨n, n.lt_succ_self, hall, hn⟩
    · exact Or.inr ⟨k, hk.trans n.lt_succ_self, hfirst⟩

theorem RetryPolicy.exists_concludes {α : Type} (policy : RetryPolicy)
    (results : Nat → Except Failure α) :
    ∃ attempts result, policy.Concludes results attempts result := by
  rcases transient_or_exists_first results policy.maxAttempts with hall | ⟨k, hk, hfirst, hfinal⟩
  · have hpos := policy.one_le_maxAttempts
    obtain ⟨e, he, -⟩ := hall (policy.maxAttempts - 1) (by omega)
    exact ⟨_, _, .exhausted hall he⟩
  · exact ⟨_, _, .settled hk hfirst hfinal⟩

namespace Client
open Call (Yields)
open Json (Node Value)
open Sse (FrameReader LineDecoder)

variable {c : Client} {w : Surroundings σ} {q : Query} {ids : FreshIds} {t : σ}
  {script : Nat → Except TransportError Body} {attempts : Nat} {result : Except Failure Answer}

theorem ran_eq (c : Client) (w : Surroundings σ) (q : Query) (ids : FreshIds)
    (script : Nat → Except TransportError Body) (attempts : Nat) (result : Except Failure Answer) :
    c.ran w q ids script attempts result =
      (queryEvents (c.queryRequest q ids) script attempts result).filter w.watch.sees := by
  have hattempts : ((List.range attempts).flatMap fun i =>
      attemptEvents (c.queryRequest q ids) (script i)).filter w.watch.sees =
        (List.range attempts).flatMap fun i => w.attempted (c.queryRequest q ids) (script i) := by
    rw [List.filter_flatMap]
    exact congrArg (List.flatMap · _) (funext fun i => (w.attempted_eq _ _).symm)
  unfold ran queryEvents
  rw [List.filter_append, List.filter_append, hattempts, ← w.staged_eq, ← w.staged_eq]

theorem yields_run_of_concludes (hw : w.Calm) (htext : Text.isBlank q.text = false)
    (hserves : w.transport.Serves (c.queryRequest q ids) t c.policy.maxAttempts script)
    (hsettles : ∀ i < c.policy.maxAttempts, ∀ body, script i = .ok body → body.Settles)
    (hconcludes : c.policy.Concludes (fun i => outcome (script i)) attempts result) :
    Yields (c.run w q ids) t result (w.transport.after (c.queryRequest q ids) t attempts)
      ((queryEvents (c.queryRequest q ids) script attempts result).filter w.watch.sees) := by
  have hattempts := yields_attempts hw hserves hsettles
  rw [← ran_eq]
  cases hconcludes with
  | settled hk htransient hfinal =>
    exact yields_run hw htext (hw.withRetries_settled hattempts hk htransient hfinal)
  | exhausted htransient hlast =>
    obtain ⟨e, he, -, hretries⟩ := hw.withRetries_exhausted hattempts htransient
    rw [hlast] at he
    cases he
    exact yields_run hw htext hretries

theorem yields_run_of_blank (hw : w.Calm) (htext : Text.isBlank q.text = true) :
    Yields (c.run w q ids) t (.error (.invalidRequest "query text is empty")) t
      ([.entered .idle, .entered .failed].filter w.watch.sees) := by
  have hfails : Yields (w.conclude (Call.fail (.invalidRequest "query text is empty"))) t
      (.error (.invalidRequest "query text is empty") : Except Failure Answer) t
      ([] ++ w.staged .failed) := hw.conclude (.fail _ t)
  have hseen : [Event.entered .idle, .entered .failed].filter w.watch.sees =
      w.staged .idle ++ ([] ++ w.staged .failed) := by
    rw [List.nil_append, w.staged_eq, w.staged_eq, ← List.filter_append]
    rfl
  unfold run
  rw [htext, if_pos rfl, hseen]
  exact (hw.enter .idle t).bind_ok hfails

theorem count_attemptStages (attempts : Nat) (result : Except Failure Answer) :
    (stages (queryEvents (c.queryRequest q ids) script attempts result)).count .rateLimited =
      attempts := by
  have hattempt (reply : Except TransportError Body) :
      (attemptStages reply).count .rateLimited = 1 := by
    cases reply <;> rfl
  have hlast : [Stage.ofResult result].count .rateLimited = 0 := by
    cases result <;> rfl
  rw [stages_queryEvents, List.count_append, List.count_append, List.count_flatMap, hlast]
  simp [Function.comp_def, hattempt]

theorem requests_seen (w : Surroundings σ) (watch : Watch)
    (script : Nat → Except TransportError Body) (attempts : Nat) (result : Except Failure Answer) :
    requests ((queryEvents (c.queryRequest q ids) script attempts result).filter watch.sees) =
      List.replicate attempts (c.queryRequest q ids) := by
  have hran := c.ran_eq (w.watchedBy watch) q ids script attempts result
  change _ = (queryEvents _ _ _ _).filter watch.sees at hran
  rw [← hran, requests_ran]

/-- A query that nothing cancels is idle, makes its attempts in turn, and ends complete or failed;
each attempt waits for its token, connects and, where there is a body, streams, and tells the
progress that a message has changed. This is what each observer sees as much of as it wants to, and
it makes no difference to the result nor to the requests. A blank query fails at once. -/
theorem run_observed (hw : w.Calm) :
    (Text.isBlank q.text = true → ∀ watch,
      Yields (c.run (w.watchedBy watch) q ids) t (.error (.invalidRequest "query text is empty")) t
        ([.entered .idle, .entered .failed].filter watch.sees)) ∧
    (Text.isBlank q.text = false → ∀ script,
      w.transport.Serves (c.queryRequest q ids) t c.policy.maxAttempts script →
      (∀ i < c.policy.maxAttempts, ∀ body, script i = .ok body → body.Settles) →
      (∃ attempts result, c.policy.Concludes (fun i => outcome (script i)) attempts result) ∧
      ∀ attempts result, c.policy.Concludes (fun i => outcome (script i)) attempts result →
        let events := queryEvents (c.queryRequest q ids) script attempts result
        (∀ watch,
          Yields (c.run (w.watchedBy watch) q ids) t result
            (w.transport.after (c.queryRequest q ids) t attempts) (events.filter watch.sees) ∧
          requests (events.filter watch.sees) = List.replicate attempts (c.queryRequest q ids)) ∧
        stages events = [.idle] ++
          ((List.range attempts).flatMap fun i => attemptStages (script i)) ++
          [.ofResult result] ∧
        (stages events).count .rateLimited = attempts) ∧
    c.KeepsTime := by
  refine ⟨?_, ?_, c.keepsTime⟩
  · intro htext watch
    exact yields_run_of_blank (hw.watchedBy watch) htext
  · intro htext script hserves hsettles
    refine ⟨c.policy.exists_concludes _, ?_⟩
    intro attempts result hconcludes
    refine ⟨?_, stages_queryEvents _ script attempts result, count_attemptStages attempts result⟩
    intro watch
    exact ⟨yields_run_of_concludes (hw.watchedBy watch) htext hserves hsettles hconcludes,
      c.requests_seen w watch script attempts result⟩

/-- The payload of a message with a plan. -/
def planning : String :=
  "\x7b\"blocks\":[\x7b\"intended_usage\":\"plan\"," ++
    "\"plan_block\":\x7b\"progress\":\"reading\"\x7d\x7d]\x7d"

def plan : Value := .object [("plan_block", .object [("progress", .text "reading")])]

def planned : Message :=
  ⟨.pending, none, false, false, none, none, [⟨"plan", .progress, .snapshot plan⟩]⟩

theorem ofPayload_planning : Message.ofPayload planning = .ok planned := by
  let block : Value := .object
    [("intended_usage", .text "plan"), ("plan_block", .object [("progress", .text "reading")])]
  have hwire : (Node.parse? planning).bind Wire.ofNode? =
      some ⟨"", none, false, false, none, none, some [block]⟩ := rfl
  have hkind : BlockKind.ofUsage "plan" = .progress := by decide
  have hstatus : Status.parse "" = .pending := by decide +kernel
  have hread : Block.read block = .ok (some ⟨"plan", .progress, .snapshot plan⟩) := by
    simp [Block.read, block, hkind, Block.usageKey, Block.diffKey, Value.textAt?, Value.get?,
      Value.text?, Json.Members.lookup_cons, plan]
    rfl
  unfold Message.ofPayload Message.ofWire
  rw [hwire]
  simp only [Option.getD_some, List.mapM_cons, List.mapM_nil, hread]
  rw [hstatus]
  rfl

theorem ofFrame?_planning : Delivery.ofFrame? ⟨none, planning⟩ = some (.ok planned) := by
  have hblank : Text.isBlank planning = false := by decide
  simp [Delivery.ofFrame?, Message.ofFrame, hblank, ofPayload_planning, Except.map]

theorem feed_planning :
    StreamReader.start.feed (.chunk (Utf8.encode ("data: " ++ planning ++ "\n\n"))) =
      (.start, [.ok planned]) := by
  have hpush : LineDecoder.push (.empty LineDecoder.defaultLimit)
      (Utf8.encode ("data: " ++ planning ++ "\n\n")) =
      (.empty LineDecoder.defaultLimit, .ok ["data: " ++ planning, ""]) := by decide
  have hframes : FrameReader.empty.feedAll ["data: " ++ planning, ""] =
      (.empty, [⟨none, planning⟩]) := by decide
  change StreamReader.start.feedChunk (Utf8.encode ("data: " ++ planning ++ "\n\n")) = _
  simp only [StreamReader.feedChunk, StreamReader.start, hpush, StreamReader.takeLines, hframes,
    Delivery.ofFrames, List.filterMap_cons, List.filterMap_nil, ofFrame?_planning]
  rfl

/-- A plan and a reset; then the plan twice, an answer, and silence. -/
def relapsing : Nat → Except TransportError Body
  | 0 =>
    .ok ⟨[(.zero, .chunk (Utf8.encode ("data: " ++ planning ++ "\n\n"))),
      (.zero, .failure (.connectionReset "gone"))], .closes .zero⟩
  | _ =>
    .ok ⟨[(.zero, .chunk (Utf8.encode ("data: " ++ planning ++ "\n\n"))),
      (.zero, .chunk (Utf8.encode ("data: " ++ planning ++ "\n\n"))),
      (.zero, .chunk (Utf8.encode ("data: " ++ answering ++ "\n\n")))], .never⟩

theorem run_relapsing_zero :
    messages [.chunk (Utf8.encode ("data: " ++ planning ++ "\n\n")),
      .failure (.connectionReset "gone")] =
        [.ok planned, .error (.transport (.connectionReset "gone"))] := by
  rw [messages, StreamReader.run_cons, feed_planning]
  rfl

theorem run_relapsing_one :
    StreamReader.start.run [] [.chunk (Utf8.encode ("data: " ++ planning ++ "\n\n")),
      .chunk (Utf8.encode ("data: " ++ planning ++ "\n\n")),
      .chunk (Utf8.encode ("data: " ++ answering ++ "\n\n"))] =
        (.start, [.ok planned, .ok planned, .ok answered]) := by
  rw [StreamReader.run_cons, feed_planning, StreamReader.run_cons, feed_planning, run_answering]
  rfl

theorem settles_relapsing (i : Nat) (body : Body) (h : relapsing i = .ok body) : body.Settles := by
  match i with
  | 0 =>
    cases h
    rintro ⟨⟩
  | _ + 1 =>
    cases h
    intro _
    refine ⟨.ok answered, ?_, rfl⟩
    change _ ∈ (StreamReader.start.run [] [_, _, _]).2
    rw [run_relapsing_one]
    simp

/-- The plan is told anew in the second attempt, but not twice. -/
theorem run_observed_relapsing :
    let w : Surroundings Nat := ⟨counting relapsing, id, none, fun _ => false, .none⟩
    let c : Client := ⟨.standard, .of 2 .zero .zero, "token"⟩
    let ids : FreshIds := ⟨"front", "context"⟩
    let attempt : List Event :=
      [.entered .rateLimited, .admitted, .entered .connecting,
        .sent (c.queryRequest (.ofText "why") ids), .entered .streaming,
        .progressed ⟨some "reading", none, [], none⟩]
    ∀ watch,
      Yields (c.run (w.watchedBy watch) (.ofText "why") ids) 0 (.ok ⟨"yes", [], "pending", none⟩) 2
        (([Event.entered .idle] ++ attempt ++ attempt ++ [Event.entered .complete]).filter
          watch.sees) ∧
      Yields (c.run (w.watchedBy watch) (.ofText " ") ids) 0
        (.error (.invalidRequest "query text is empty")) 0
        ([.entered .idle, .entered .failed].filter watch.sees) := by
  intro w c ids attempt watch
  have hw : w.Calm := ⟨rfl, fun _ => rfl⟩
  have hserves (r : Request) (n : Nat) : w.transport.Serves r 0 n relapsing :=
    fun i _ => ⟨.zero, by rw [show w.transport = counting relapsing from rfl, after_counting]; rfl⟩
  have hfirst : outcome (relapsing 0) = .error (.transport (.connectionReset "gone")) := by
    change Assembly.empty.gather (messages [_, _]) >>= _ = _
    rw [run_relapsing_zero]
    rfl
  have hheard : messages [.chunk (Utf8.encode ("data: " ++ planning ++ "\n\n")),
      .chunk (Utf8.encode ("data: " ++ planning ++ "\n\n")),
      .chunk (Utf8.encode ("data: " ++ answering ++ "\n\n"))] =
      [.ok planned, .ok planned, .ok answered] := by
    rw [messages, run_relapsing_one]
    rfl
  have hsecond : outcome (relapsing 1) = .ok ⟨"yes", [], "pending", none⟩ := by
    change Assembly.empty.gather (messages [_, _, _]) >>= _ = _
    rw [hheard]
    decide +kernel
  have hconcludes : c.policy.Concludes (fun i => outcome (relapsing i)) 2
      (.ok ⟨"yes", [], "pending", none⟩) := by
    rw [← hsecond]
    refine RetryPolicy.Concludes.settled (k := 1) (by decide) ?_ ?_
    · intro i hi
      obtain rfl : i = 0 := by omega
      exact ⟨_, hfirst, rfl⟩
    · rintro ⟨e, he, -⟩
      rw [hsecond] at he
      cases he
  obtain ⟨-, hrun, -⟩ := @run_observed Nat c w (.ofText "why") ids 0 hw
  obtain ⟨-, hobserved⟩ := hrun (by decide) relapsing (hserves _ _) fun i _ => settles_relapsing i
  obtain ⟨hwatched, -, -⟩ := hobserved 2 _ hconcludes
  obtain ⟨hblank, -⟩ := @run_observed Nat c w (.ofText " ") ids 0 hw
  have hplanned : Assembly.empty.progressChanges [planned] =
      [⟨some "reading", none, [], none⟩] := by
    decide +kernel
  have hanswered : Assembly.empty.progressChanges [planned, planned, answered] =
      [⟨some "reading", none, [], none⟩] := by decide +kernel
  have hevents : queryEvents (c.queryRequest (.ofText "why") ids) relapsing 2
      (.ok ⟨"yes", [], "pending", none⟩) =
        [Event.entered .idle] ++ attempt ++ attempt ++ [Event.entered .complete] := by
    have hzero : attemptEvents (c.queryRequest (.ofText "why") ids) (relapsing 0) = attempt := by
      change _ ++ _ :: (Assembly.empty.progressChanges
        (Delivery.taken (messages [_, _]))).map Event.progressed = _
      rw [run_relapsing_zero]
      exact congrArg (fun ps => _ ++ _ :: List.map Event.progressed ps) hplanned
    have hone : attemptEvents (c.queryRequest (.ofText "why") ids) (relapsing 1) = attempt := by
      change _ ++ _ :: (Assembly.empty.progressChanges
        (Delivery.taken (messages [_, _, _]))).map Event.progressed = _
      rw [hheard]
      exact congrArg (fun ps => _ ++ _ :: List.map Event.progressed ps) hanswered
    change _ ++ (attemptEvents _ (relapsing 0) ++ (attemptEvents _ (relapsing 1) ++ [])) ++ _ = _
    rw [hzero, hone]
    rfl
  rw [← hevents]
  exact ⟨(hwatched watch).1, hblank (by decide) watch⟩

end Client
end AnswerStream
