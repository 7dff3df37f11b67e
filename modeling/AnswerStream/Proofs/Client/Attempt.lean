import AnswerStream.Client.Run
import AnswerStream.Proofs.Client.Calm
import AnswerStream.Proofs.Stream.Uncut

/-!
What one attempt comes to. The outcome of a reply is that of its deliveries, gathered from nothing
up to the first terminal message or failure; the attempt that meets the reply ends with this
outcome, whatever was attempted before.
-/

namespace AnswerStream

variable {σ : Type}

/-- Gathers deliveries up to the first terminal message; a failure in front of it is the outcome. -/
def Assembly.gather (a : Assembly) : List Delivery → Except Failure Assembly
  | [] => .ok a
  | .error e :: _ => .error e
  | .ok m :: rest => if (a.apply m).terminal then .ok (a.apply m) else gather (a.apply m) rest

/-- Whether gathering stops at a delivery. -/
def Delivery.isFinal : Delivery → Bool
  | .ok m => m.terminal
  | .error _ => true

namespace Body

def deliveries (b : Body) : List Delivery := messages (b.arrivals.map Prod.snd)

/-- The body ends, or something arrives behind which nothing is read. -/
def Settles (b : Body) : Prop :=
  b.ending = .never →
    ∃ d ∈ (StreamReader.start.run [] (b.arrivals.map Prod.snd)).2, Delivery.isFinal d = true

end Body

/-- What a reply amounts to by itself. -/
def outcome : Except TransportError Body → Except Failure Answer
  | .error e => .error (.ofTransport e)
  | .ok body => Assembly.empty.gather body.deliveries >>= Assembly.finalize

namespace Gathering

/-- The gathering after one more message. -/
def add (watching : Bool) (g : Gathering) (m : Message) : Gathering :=
  ⟨g.assembly.apply m, if watching then (g.assembly.apply m).progress? else g.shown⟩

/-- What the observers are told of one more message. -/
def notices (watching : Bool) (g : Gathering) (m : Message) : List Event :=
  if watching then
    ((g.assembly.apply m).progress?.toList.filter fun p => some p ≠ g.shown).map .progressed
  else []

/-- Takes deliveries up to the first terminal message or failure, with all that the observers are
told. -/
def addAll (watching : Bool) (g : Gathering) : List Delivery → List Event × Except Failure Gathering
  | [] => ([], .ok g)
  | .error e :: _ => ([], .error e)
  | .ok m :: rest =>
    if (g.assembly.apply m).terminal then (g.notices watching m, .ok (g.add watching m))
    else
      (g.notices watching m ++ ((g.add watching m).addAll watching rest).1,
        ((g.add watching m).addAll watching rest).2)

variable {watching : Bool} {g : Gathering}

theorem assembly_addAll (watching : Bool) (g : Gathering) (ds : List Delivery) :
    (g.addAll watching ds).2.map assembly = g.assembly.gather ds := by
  induction ds generalizing g with
  | nil => rfl
  | cons d rest ih =>
    cases d with
    | error e => rfl
    | ok m =>
      by_cases hterminal : (g.assembly.apply m).terminal
      · simp only [addAll, Assembly.gather, hterminal, if_true]
        rfl
      · simp only [addAll, Assembly.gather, hterminal, Bool.false_eq_true, if_false]
        exact ih (g.add watching m)

theorem addAll_append (as bs : List Delivery) (hg : g.assembly.terminal = false) :
    g.addAll watching (as ++ bs) =
      match (g.addAll watching as).2 with
      | .error e => ((g.addAll watching as).1, .error e)
      | .ok g' =>
        if g'.assembly.terminal then ((g.addAll watching as).1, .ok g')
        else ((g.addAll watching as).1 ++ (g'.addAll watching bs).1,
          (g'.addAll watching bs).2) := by
  induction as generalizing g with
  | nil => simp [addAll, hg]
  | cons d rest ih =>
    cases d with
    | error e => rfl
    | ok m =>
      by_cases hterminal : (g.assembly.apply m).terminal
      · simp [addAll, add, hterminal]
      · have hrest := ih (g := g.add watching m) (by simpa [add] using hterminal)
        simp only [List.cons_append, addAll, hterminal, Bool.false_eq_true, if_false, hrest]
        cases ((g.add watching m).addAll watching rest).2 with
        | error e => rfl
        | ok g' =>
          by_cases hg' : g'.assembly.terminal <;> simp [hg']

theorem isFinal_of_not_terminal {ds : List Delivery} {g' : Gathering}
    (h : (g.addAll watching ds).2 = .ok g') (hg' : g'.assembly.terminal = false) :
    ∀ d ∈ ds, Delivery.isFinal d = false := by
  induction ds generalizing g with
  | nil => simp
  | cons d rest ih =>
    cases d with
    | error e => cases h
    | ok m =>
      by_cases hterminal : (g.assembly.apply m).terminal
      · simp only [addAll, hterminal, if_true, Except.ok.injEq] at h
        rw [← h, add, hterminal] at hg'
        cases hg'
      · simp only [addAll, hterminal, Bool.false_eq_true, if_false] at h
        have hm : m.terminal = false := by
          rw [Assembly.apply] at hterminal
          simp_all
        exact List.forall_mem_cons.mpr ⟨hm, ih h⟩

end Gathering

namespace Surroundings
open Call (Yields)

variable {w : Surroundings σ} {t t' : σ}

theorem Calm.absorb (hw : w.Calm) (g : Gathering) (m : Message) (t : σ) :
    Yields (w.absorb g m) t (.ok (g.add w.watch.progress m)) t (g.notices w.watch.progress m) := by
  unfold Surroundings.absorb Gathering.add Gathering.notices
  cases w.watch.progress with
  | false => exact .pure _ t
  | true =>
    rcases hprogress : (g.assembly.apply m).progress? with _ | p
    · simp only [hprogress]
      exact .pure _ t
    · have htold : Yields (do
          w.emit (.progressed p)
          pure ⟨g.assembly.apply m, some p⟩ : Call σ Gathering) t
            (.ok ⟨g.assembly.apply m, some p⟩) t [.progressed p] :=
        Yields.bind_ok (hw.emit _ t) (.pure _ t)
      by_cases hshown : some p = g.shown
      · simp only [hprogress, ← hshown]
        simpa using Yields.pure _ t
      · simpa [hprogress, hshown] using htold

theorem Calm.absorbAll (hw : w.Calm) (g : Gathering) (ds : List Delivery) (t : σ) :
    Yields (w.absorbAll g ds) t (g.addAll w.watch.progress ds).2 t
      (g.addAll w.watch.progress ds).1 := by
  induction ds generalizing g with
  | nil => exact .pure g t
  | cons d rest ih =>
    cases d with
    | error e => exact .fail e t
    | ok m =>
      have habsorb := hw.absorb g m t
      simp only [Surroundings.absorbAll, Gathering.addAll]
      by_cases hterminal : (g.assembly.apply m).terminal
      · simp only [hterminal, if_true]
        refine habsorb.bind_silent ?_
        simpa [Gathering.add, hterminal] using Yields.pure _ t
      · simp only [hterminal, Bool.false_eq_true, if_false]
        refine habsorb.bind_ok ?_
        simpa [Gathering.add, hterminal] using ih (g.add w.watch.progress m)

theorem Calm.readBody (hw : w.Calm) {ending : Ending} {reader : StreamReader} {g : Gathering}
    {arrivals : List (Duration × Arrival)} (t : σ) (hg : g.assembly.terminal = false)
    (hsettles : ending = .never →
      ∃ d ∈ (reader.run [] (arrivals.map Prod.snd)).2, Delivery.isFinal d = true) :
    let ds := (reader.run [] (arrivals.map Prod.snd)).2 ++
      (reader.run [] (arrivals.map Prod.snd)).1.finish
    Yields (w.readBody ending reader g arrivals) t (g.addAll w.watch.progress ds).2 t
      (g.addAll w.watch.progress ds).1 := by
  induction arrivals generalizing reader g with
  | nil =>
    cases ending with
    | never =>
      obtain ⟨d, hd, -⟩ := hsettles rfl
      cases hd
    | closes delay => exact (hw.pause delay t).bind_ok (hw.absorbAll g reader.finish t)
  | cons head rest ih =>
    obtain ⟨delay, arrival⟩ := head
    have hrun := reader.run_cons arrival (rest.map Prod.snd)
    have habsorb := hw.absorbAll g (reader.feed arrival).2 t
    simp only [Surroundings.readBody, List.map_cons, hrun, List.append_assoc] at hsettles ⊢
    rw [Gathering.addAll_append _ _ hg, ← List.nil_append (Prod.fst _)]
    refine (hw.pause delay t).bind_ok ?_
    cases htaken : (g.addAll w.watch.progress (reader.feed arrival).2).2 with
    | error e =>
      rw [htaken] at habsorb
      exact habsorb.bind_error _
    | ok g' =>
      rw [htaken] at habsorb
      by_cases hterminal : g'.assembly.terminal
      · simp only [hterminal, if_true]
        refine habsorb.bind_silent ?_
        simpa [hterminal] using Yields.pure g' t
      · have hg' : g'.assembly.terminal = false := by simpa using hterminal
        have hrest := @ih (reader.feed arrival).1 g' hg' ?_
        · simp only [hg', Bool.false_eq_true, if_false]
          refine habsorb.bind_ok ?_
          simpa [hg'] using hrest
        · intro hnever
          obtain ⟨d, hd, hfinal⟩ := hsettles hnever
          rcases List.mem_append.mp hd with hd | hd
          · rw [Gathering.isFinal_of_not_terminal htaken hg' d hd] at hfinal
            cases hfinal
          · exact ⟨d, hd, hfinal⟩

/-- The events of an attempt that meets a reply. -/
def attempted (w : Surroundings σ) (r : Request) (reply : Except TransportError Body) :
    List Event :=
  w.staged .rateLimited ++ [.admitted] ++ w.staged .connecting ++ [.sent r] ++
    match reply with
    | .error _ => []
    | .ok body =>
      w.staged .streaming ++ (Gathering.empty.addAll w.watch.progress body.deliveries).1

/-- An attempt comes to what the reply that it meets amounts to by itself. -/
theorem Calm.attempt (hw : w.Calm) {r : Request} {delay : Duration}
    {reply : Except TransportError Body}
    (hserve : w.transport.stream t r = (t', .after delay reply))
    (hsettles : ∀ body, reply = .ok body → body.Settles) :
    Yields (w.attempt r) t (outcome reply) t' (w.attempted r reply) := by
  have hexchange := hw.exchange hserve
  simp only [Surroundings.attempt, attempted, List.append_assoc]
  refine (hw.enter .rateLimited t).bind_ok ((hw.acquire t).bind_ok
    ((hw.enter .connecting t).bind_ok ?_))
  cases reply with
  | error e => exact hexchange.bind_error _
  | ok body =>
    refine hexchange.bind_ok ((hw.enter .streaming t').bind_ok ?_)
    have hread := @Calm.readBody σ w hw body.ending .start .empty body.arrivals t' rfl
        (hsettles body rfl)
    have hgather := Gathering.assembly_addAll w.watch.progress .empty body.deliveries
    change Yields (w.readBody body.ending .start .empty body.arrivals) t'
      (Gathering.empty.addAll w.watch.progress body.deliveries).2 t'
      (Gathering.empty.addAll w.watch.progress body.deliveries).1 at hread
    change _ = Assembly.empty.gather body.deliveries at hgather
    rw [outcome, ← hgather]
    cases htaken : (Gathering.empty.addAll w.watch.progress body.deliveries).2 with
    | error e =>
      rw [htaken] at hread
      exact hread.bind_error _
    | ok g =>
      rw [htaken] at hread
      exact hread.bind_silent (.ofExcept _ t')

end Surroundings
end AnswerStream
