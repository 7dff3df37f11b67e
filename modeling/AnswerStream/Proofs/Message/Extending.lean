import AnswerStream.Proofs.Json.Composing
import AnswerStream.Proofs.Json.Fields
import AnswerStream.Proofs.Message.Payload

/-!
Payloads with more in them. A message is read alike if its members are put in another order, and if
members with other keys stand among them, whatever these hold and however often they come.
-/

namespace AnswerStream
open Json (Node Record)

namespace Wire

theorem ofNode?_of_extends {members extended : List (Option String × Node)} {w : Wire}
    (h : Record.Extends fieldNames members extended) (hread : ofNode? (.object members) = some w) :
    ofNode? (.object extended) = some w := by
  have hrecord {members : List (Option String × Node)} {fields : List (String × Node)}
      (hknown : Record.known? fieldNames members = some fields) :
      Record.ofNode? fieldNames (.object members) = some ⟨fields, false⟩ := by
    rw [Record.ofNode?, hknown, Option.map_some]
  cases hknown : Record.known? fieldNames members with
  | none =>
    have hnone : Record.ofNode? fieldNames (.object members) = none := by
      rw [Record.ofNode?, hknown, Option.map_none]
    unfold ofNode? at hread
    rw [hnone] at hread
    cases hread
  | some fields =>
    obtain ⟨fields', hknown', hlookup⟩ := h.known? hknown
    have hdefault {α : Type} (name : String) (missing : α) (read : Node → Option α) :
        Record.default? ⟨fields', false⟩ name missing read =
          Record.default? ⟨fields, false⟩ name missing read := by
      unfold Record.default? Record.get?
      rw [hlookup]
    unfold ofNode? at hread ⊢
    rw [hrecord hknown] at hread
    rw [hrecord hknown']
    simp only [Option.bind_eq_bind, Option.bind_some, hdefault] at hread ⊢
    exact hread

end Wire

namespace Message

theorem isBlank_of_object {payload : String} {members : List (Option String × Node)}
    (h : (Node.object members).Writes payload.toList) : Text.isBlank payload = false := by
  have hbrace {ts : List Json.Token} {cs : List Char} (hcs : Json.Token.WritesAll ts cs)
      (hts : .beginObject ∈ ts) : '{' ∈ cs := by
    induction hcs with
    | nil => cases hts
    | blank _ _ ih => exact List.mem_append_left _ (ih hts)
    | snoc _ ht ih =>
      rcases List.mem_append.mp hts with hbefore | hlast
      · exact List.mem_append_left _ (ih hbefore)
      · obtain rfl := List.mem_singleton.mp hlast
        cases ht
        exact List.mem_append_right _ (List.mem_singleton_self _)
  exact List.all_eq_false.mpr ⟨_, hbrace h (by simp [Node.tokens]), by decide⟩

/-- A payload that is read stays readable, and is read alike, if its members are put in another
order and foreign ones among them: in every way to write the object, and so if the texts of the
members are put together with commas. -/
theorem ofFrame_of_extends {event : Option String} {payload : String} {r : Option Message}
    {members extended : List (Option String × Node)}
    (hpayload : (Node.object members).Writes payload.toList)
    (hread : ofFrame ⟨event, payload⟩ = .ok r)
    (hextends : Record.Extends Wire.fieldNames members extended) :
    (∀ payload' : String, (Node.object extended).Writes payload'.toList →
     ofFrame ⟨event, payload'⟩ = .ok r) ∧
      ∀ parts, List.Forall₂ Node.WritesMember extended parts →
        ofFrame ⟨event, String.ofList ('{' :: Json.Value.separated [','] parts ++ ['}'])⟩ =
          .ok r := by
  have hall (payload' : String) (hpayload' : (Node.object extended).Writes payload'.toList) :
      ofFrame ⟨event, payload'⟩ = .ok r := by
    by_cases hevent : event = none ∨ event = some eventName
    · obtain ⟨m, rfl⟩ : ∃ m, r = some m := by
        rw [ofFrame_eq hevent (isBlank_of_object hpayload)] at hread
        cases hresult : ofPayload payload with
        | error e => simp [hresult, Except.map] at hread
        | ok m => exact ⟨m, by simpa [hresult, Except.map, eq_comm] using hread⟩
      rw [ofFrame_eq_some_iff hevent (isBlank_of_object hpayload), ofPayload_eq_ok_iff hpayload]
        at hread
      rw [ofFrame_eq_some_iff hevent (isBlank_of_object hpayload'), ofPayload_eq_ok_iff hpayload']
      obtain ⟨w, hw, hm⟩ := hread
      exact ⟨w, Wire.ofNode?_of_extends hextends hw, hm⟩
    · simp only [ofFrame, hevent, if_false] at hread ⊢
      exact hread
  refine ⟨hall, fun parts hparts => hall _ ?_⟩
  rw [String.toList_ofList]
  exact Node.writes_object hparts

def statusMember : Option String × Node := (some "status", .text (some "done"))

def finalMember : Option String × Node := (some "final_sse_message", .bool true)

/-- A value with a lone surrogate and a number out of all range. -/
def traceMember : Option String × Node :=
  (some "trace", .array
    [.array [.object [(some "x", .text none)]], .number ⟨false, [1], [], some 999⟩])

def emptyTrace : Option String × Node := (some "trace", .null)

theorem extends_traced :
    Record.Extends Wire.fieldNames [statusMember, finalMember]
      [finalMember, traceMember, statusMember, emptyTrace] := by
  refine ⟨[traceMember, emptyTrace], ?_, ?_⟩
  · simp only [List.forall_mem_cons]
    exact ⟨⟨"trace", rfl, by decide⟩, ⟨"trace", rfl, by decide⟩, by simp⟩
  · have hinner := (List.Perm.swap statusMember traceMember [emptyTrace]).cons finalMember
    exact hinner.trans (.swap statusMember finalMember _)

/-- A final message whose members change places, with a trace between them and another one behind.
-/
theorem ofFrame_of_extends_traced :
    let payload := "\x7b\"status\":\"done\",\"final_sse_message\":true\x7d"
    let traced :=
      "\x7b\"final_sse_message\":true,\"tr\\u0061ce\":[[\x7b\"x\":\"\\ud800\"\x7d],1e999]," ++
      "\"status\":\"done\" ,\"trace\":null\x7d"
    let m : Message := ⟨.completed, none, true, false, none, none, []⟩
    (Node.object [statusMember, finalMember]).Writes payload.toList ∧
      ofFrame ⟨none, payload⟩ = .ok (some m) ∧ ofFrame ⟨none, traced⟩ = .ok (some m) := by
  intro payload traced m
  have hpayload : (Node.object [statusMember, finalMember]).Writes payload.toList :=
    Json.Token.writesAll_of_scan? (by decide +kernel)
  have htraced : (Node.object [finalMember, traceMember, statusMember, emptyTrace]).Writes
      traced.toList :=
    Json.Token.writesAll_of_scan? (by decide +kernel)
  have hstatus : Status.parse "done" = .completed := by decide +kernel
  have hread : ofFrame ⟨none, payload⟩ = .ok (some m) := by
    rw [ofFrame_eq_some_iff (.inl rfl) (isBlank_of_object hpayload), ofPayload_eq_ok_iff hpayload]
    refine ⟨⟨"done", none, true, false, none, none, none⟩, rfl, ?_⟩
    rw [ofWire, hstatus]
    rfl
  obtain ⟨hall, -⟩ := ofFrame_of_extends hpayload hread extends_traced
  exact ⟨hpayload, hread, hall traced htraced⟩

end Message
end AnswerStream
