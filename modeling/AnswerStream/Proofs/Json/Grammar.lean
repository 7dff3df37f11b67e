import AnswerStream.Json.Node
import AnswerStream.Proofs.Json.Lexemes

/-!
The grammar of JSON texts. A tree has one sequence of tokens, and its texts are the texts of these
tokens. What the builder has taken is told by its stack and by what it waits for, so it accepts just
the tokens of a tree.
-/

namespace AnswerStream.Json

mutual

/-- The tokens of a tree. -/
def Node.tokens : Node → List Token
  | .null => [.null]
  | .bool b => [.bool b]
  | .number l => [.number l]
  | .text s => [.text s]
  | .array items => .beginArray :: (Node.itemTokens items ++ [.endArray])
  | .object members => .beginObject :: (Node.memberTokens members ++ [.endObject])

/-- Items with commas between them. -/
def Node.itemTokens : List Node → List Token
  | [] => []
  | n :: rest => n.tokens ++ Node.moreItems rest

/-- Items with a comma in front of each. -/
def Node.moreItems : List Node → List Token
  | [] => []
  | n :: rest => .comma :: (n.tokens ++ Node.moreItems rest)

def Node.memberTokens : List (Option String × Node) → List Token
  | [] => []
  | (key, n) :: rest => .text key :: .colon :: (n.tokens ++ Node.moreMembers rest)

def Node.moreMembers : List (Option String × Node) → List Token
  | [] => []
  | (key, n) :: rest => .comma :: .text key :: .colon :: (n.tokens ++ Node.moreMembers rest)

end

/-- The grammar of JSON texts, with the tree of each. -/
def Node.Writes (n : Node) (cs : List Char) : Prop := Token.WritesAll n.tokens cs

theorem Node.moreItems_of_ne_nil {items : List Node} (h : items ≠ []) :
    moreItems items = .comma :: itemTokens items := by
  cases items with
  | nil => exact absurd rfl h
  | cons n rest => rfl

theorem Node.itemTokens_concat (items : List Node) (n : Node) :
    itemTokens (items ++ [n]) = items.flatMap (fun m => m.tokens ++ [.comma]) ++ n.tokens := by
  induction items with
  | nil => simp [itemTokens, moreItems]
  | cons m items ih =>
    have hmore := moreItems_of_ne_nil (List.concat_ne_nil n items)
    simp [itemTokens, hmore, ih]

/-- A member with its comma. -/
def Node.memberComma (member : Option String × Node) : List Token :=
  .text member.1 :: .colon :: (member.2.tokens ++ [.comma])

theorem Node.moreMembers_of_ne_nil {members : List (Option String × Node)} (h : members ≠ []) :
    moreMembers members = .comma :: memberTokens members := by
  cases members with
  | nil => exact absurd rfl h
  | cons member rest => rfl

theorem Node.memberTokens_concat (members : List (Option String × Node)) (key : Option String)
    (n : Node) :
    memberTokens (members ++ [(key, n)]) =
      members.flatMap memberComma ++ (.text key :: .colon :: n.tokens) := by
  induction members with
  | nil => simp [memberTokens, moreMembers]
  | cons member members ih =>
    have hmore := moreMembers_of_ne_nil (List.concat_ne_nil (key, n) members)
    simp [memberTokens, memberComma, hmore, ih]

namespace Token

theorem Apart.cons {t : Token} {ts : List Token} (ht : t.isBare = false) (h : Apart ts) :
    Apart (t :: ts) :=
  List.isChain_cons.mpr ⟨fun _ _ => .inl ht, h⟩

theorem Apart.append {ts us : List Token} (h : Apart ts) (hus : Apart us)
    (hhead : ∀ u ∈ us.head?, u.isBare = false) : Apart (ts ++ us) :=
  List.isChain_append.mpr ⟨h, hus, fun _ _ u hu => .inr (hhead u hu)⟩

end Token

mutual

theorem Node.apart_tokens (n : Node) : Token.Apart n.tokens := by
  match n with
  | .null | .bool b | .number l | .text s => exact List.isChain_singleton _
  | .array [] | .object [] => exact .cons rfl (List.isChain_singleton _)
  | .array (n :: rest) =>
    obtain ⟨hmore, hhead⟩ := apart_moreItems rest
    have hitems := (apart_tokens n).append hmore hhead
    exact .cons rfl (hitems.append (List.isChain_singleton _) (by simp [Token.isBare]))
  | .object ((key, n) :: rest) =>
    obtain ⟨hmore, hhead⟩ := apart_moreMembers rest
    have hmembers := (apart_tokens n).append hmore hhead
    have hclosed := hmembers.append (List.isChain_singleton .endObject) (by simp [Token.isBare])
    exact .cons rfl (.cons rfl (.cons rfl hclosed))

theorem Node.apart_moreItems (items : List Node) :
    Token.Apart (moreItems items) ∧ ∀ t ∈ (moreItems items).head?, t.isBare = false := by
  match items with
  | [] => exact ⟨List.isChain_nil, by simp [moreItems]⟩
  | n :: rest =>
    obtain ⟨hmore, hhead⟩ := apart_moreItems rest
    exact ⟨.cons rfl ((apart_tokens n).append hmore hhead), by simp [moreItems, Token.isBare]⟩

theorem Node.apart_moreMembers (members : List (Option String × Node)) :
    Token.Apart (moreMembers members) ∧ ∀ t ∈ (moreMembers members).head?, t.isBare = false := by
  match members with
  | [] => exact ⟨List.isChain_nil, by simp [moreMembers]⟩
  | (key, n) :: rest =>
    obtain ⟨hmore, hhead⟩ := apart_moreMembers rest
    have hvalues := (apart_tokens n).append hmore hhead
    exact ⟨.cons rfl (.cons rfl (.cons rfl hvalues)), by simp [moreMembers, Token.isBare]⟩

end

namespace Builder

theorem step_firstItem {stack : List Open} {t : Token} (h : t ≠ .endArray) :
    step ⟨stack, .firstItem⟩ t = value stack t := by
  cases t with
  | endArray => exact absurd rfl h
  | _ => rfl

theorem run_firstItem (n : Node) (stack : List Open) :
    run ⟨stack, .firstItem⟩ n.tokens = run ⟨stack, .value⟩ n.tokens := by
  cases n <;> simp [Node.tokens, step]

mutual

/-- The tokens of a tree put it where a value was awaited, whatever is open around it. -/
theorem run_tokens (n : Node) (stack : List Open) :
    run ⟨stack, .value⟩ n.tokens = place stack n := by
  match n with
  | .null | .bool b | .number l | .text s => simp [Node.tokens, step, value]
  | .array [] => simp [Node.tokens, Node.itemTokens, step, value, close]
  | .array (n :: rest) =>
    have hfirst := run_tokens n (.array [] :: stack)
    have hmore := run_moreItems rest [n] stack
    simp [Node.tokens, Node.itemTokens, step, value, close, run_append, run_firstItem, hfirst,
      place, hmore]
  | .object [] => simp [Node.tokens, Node.memberTokens, step, value, close]
  | .object ((key, n) :: rest) =>
    have hfirst := run_tokens n (.member key :: .object [] :: stack)
    have hmore := run_moreMembers rest [(key, n)] stack
    simp [Node.tokens, Node.memberTokens, step, value, close, run_append, hfirst, place, hmore]

theorem run_moreItems (rest items : List Node) (stack : List Open) :
    run ⟨.array items :: stack, .next⟩ (Node.moreItems rest) =
      some ⟨.array (rest.reverse ++ items) :: stack, .next⟩ := by
  match rest with
  | [] => simp [Node.moreItems]
  | n :: rest =>
    have hitem := run_tokens n (.array items :: stack)
    have hmore := run_moreItems rest (n :: items) stack
    simp [Node.moreItems, step, comma, run_append, hitem, place, hmore]

theorem run_moreMembers (rest members : List (Option String × Node)) (stack : List Open) :
    run ⟨.object members :: stack, .next⟩ (Node.moreMembers rest) =
      some ⟨.object (rest.reverse ++ members) :: stack, .next⟩ := by
  match rest with
  | [] => simp [Node.moreMembers]
  | (key, n) :: rest =>
    have hmember := run_tokens n (.member key :: .object members :: stack)
    have hmore := run_moreMembers rest ((key, n) :: members) stack
    simp [Node.moreMembers, step, comma, run_append, hmember, place, hmore]

end

end Builder

/-- The tokens that opened an array or an object and stand in it so far. -/
def Open.tokens : Open → List Token
  | .array items => .beginArray :: items.reverse.flatMap fun n => n.tokens ++ [.comma]
  | .object members => .beginObject :: members.reverse.flatMap Node.memberComma
  | .member key => [.text key, .colon]

namespace Builder

def opened (stack : List Open) : List Token := stack.reverse.flatMap Open.tokens

@[simp] theorem opened_nil : opened [] = [] := rfl

@[simp] theorem opened_cons (o : Open) (stack : List Open) :
    opened (o :: stack) = opened stack ++ o.tokens := by
  simp [opened]

/-- The tokens that a builder has taken. -/
inductive Holds : Builder → List Token → Prop
  | value (stack : List Open) : Holds ⟨stack, .value⟩ (opened stack)
  | firstItem (stack : List Open) :
      Holds ⟨.array [] :: stack, .firstItem⟩ (opened stack ++ [.beginArray])
  | firstKey (stack : List Open) :
      Holds ⟨.object [] :: stack, .firstKey⟩ (opened stack ++ [.beginObject])
  | key (members : List (Option String × Node)) (stack : List Open) :
      Holds ⟨.object members :: stack, .key⟩ (opened (.object members :: stack))
  | colon (key : Option String) (stack : List Open) :
      Holds ⟨.member key :: stack, .colon⟩ (opened stack ++ [.text key])
  | nextItem (n : Node) (items : List Node) (stack : List Open) :
      Holds ⟨.array (n :: items) :: stack, .next⟩ (opened (.array items :: stack) ++ n.tokens)
  | nextMember (key : Option String) (n : Node) (members : List (Option String × Node))
      (stack : List Open) :
      Holds ⟨.object ((key, n) :: members) :: stack, .next⟩
        (opened (.member key :: .object members :: stack) ++ n.tokens)
  | nothing (n : Node) : Holds ⟨[], .nothing n⟩ n.tokens

theorem Holds.of_place {stack : List Open} {n : Node} {b : Builder}
    (h : place stack n = some b) : Holds b (opened stack ++ n.tokens) := by
  unfold place at h
  split at h <;> cases h
  · exact .nothing n
  · exact .nextItem n _ _
  · exact .nextMember _ n _ _

theorem Holds.of_value {stack : List Open} {t : Token} {b : Builder}
    (h : Builder.value stack t = some b) : Holds b (opened stack ++ [t]) := by
  cases t with
  | beginArray =>
    cases h
    exact .firstItem stack
  | beginObject =>
    cases h
    exact .firstKey stack
  | null | bool | number | text => exact .of_place h
  | endArray | endObject | colon | comma => cases h

theorem Holds.step {b b' : Builder} {ts : List Token} {t : Token} (h : Holds b ts)
    (hstep : b.step t = some b') : Holds b' (ts ++ [t]) := by
  cases h with
  | value stack => exact .of_value hstep
  | firstItem stack =>
    by_cases hclose : t = .endArray
    · subst hclose
      simpa [Node.tokens, Node.itemTokens] using Holds.of_place hstep
    · rw [step_firstItem hclose] at hstep
      simpa [Open.tokens] using Holds.of_value hstep
  | firstKey stack =>
    cases t with
    | endObject => simpa [Node.tokens, Node.memberTokens] using Holds.of_place hstep
    | text key =>
      cases hstep
      simpa [Open.tokens] using Holds.colon key (.object [] :: stack)
    | _ => cases hstep
  | key members stack =>
    cases t with
    | text key =>
      cases hstep
      exact .colon key _
    | _ => cases hstep
  | colon key stack =>
    cases t with
    | colon =>
      cases hstep
      simpa [Open.tokens] using Holds.value (.member key :: stack)
    | _ => cases hstep
  | nextItem n items stack =>
    cases t with
    | comma =>
      cases hstep
      simpa [Open.tokens] using Holds.value (.array (n :: items) :: stack)
    | endArray =>
      simpa [Node.tokens, Node.itemTokens_concat, Open.tokens] using Holds.of_place hstep
    | _ => cases hstep
  | nextMember key n members stack =>
    cases t with
    | comma =>
      cases hstep
      simpa [Open.tokens, Node.memberComma] using Holds.key ((key, n) :: members) stack
    | endObject =>
      simpa [Node.tokens, Node.memberTokens_concat, Open.tokens] using Holds.of_place hstep
    | _ => cases hstep
  | nothing n => cases hstep

theorem Holds.run {b b' : Builder} {ts more : List Token} (h : Holds b ts)
    (hrun : b.run more = some b') : Holds b' (ts ++ more) := by
  induction more generalizing b ts with
  | nil =>
    cases hrun
    simpa using h
  | cons t more ih =>
    obtain ⟨next, hstep, hrun⟩ := Option.bind_eq_some_iff.mp hrun
    simpa using ih (h.step hstep) hrun

end Builder

namespace Node

theorem ofTokens?_eq_some_iff {ts : List Token} {n : Node} :
    ofTokens? ts = some n ↔ ts = n.tokens := by
  constructor
  · intro h
    obtain ⟨b, hrun, hb⟩ := Option.bind_eq_some_iff.mp h
    have hholds : Builder.Holds b ts := (Builder.Holds.value []).run hrun
    cases hholds with
    | nothing m =>
      cases hb
      rfl
    | _ => cases hb
  · rintro rfl
    simp [ofTokens?, Builder.start, Builder.run_tokens, Builder.place]

/-- Reading accepts just the texts of the grammar, and finds the tree of each. -/
theorem parse?_eq_some_iff {s : String} {n : Node} : parse? s = some n ↔ n.Writes s.toList := by
  constructor
  · intro h
    obtain ⟨ts, hscan, hts⟩ := Option.bind_eq_some_iff.mp h
    rw [ofTokens?_eq_some_iff] at hts
    subst hts
    exact Token.writesAll_of_scan? hscan
  · intro h
    rw [parse?, Token.scan?_of_writesAll h n.apart_tokens]
    exact ofTokens?_eq_some_iff.mpr rfl

theorem Writes.unique {n m : Node} {cs : List Char} (hn : n.Writes cs) (hm : m.Writes cs) :
    n = m := by
  have hread {n : Node} (h : n.Writes cs) : parse? (String.ofList cs) = some n := by
    rwa [parse?_eq_some_iff, String.toList_ofList]
  exact Option.some.inj ((hread hn).symm.trans (hread hm))

end Node
end AnswerStream.Json
