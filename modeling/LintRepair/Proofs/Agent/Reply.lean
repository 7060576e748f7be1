import LintRepair.Agent.Repair
import LintRepair.Proofs.Json.Pretty
import LintRepair.Proofs.Json.Record
import LintRepair.Proofs.Text.Utf8

/-!
What a reply of a service says, however it is encoded. Fields may stand in any order, with fields of
other names around them, and every value may be spelled in any way. Of content blocks only the texts
of the kind `text` count, of choices only the first.
-/
namespace LintRepair

theorem lossyText_utf8 (s : String) : lossyText (utf8 s) = s := by
  rw [lossyText, utf8, Text.Utf8.decodeLossy, Text.Utf8.scan_encode, List.map_map]
  show String.ofList (s.toList.map id) = s
  rw [List.map_id, String.ofList_toList]

namespace Agent
open Json

variable {text : Option String} {field : Option Value} {b : Block} {bs : List Block}
variable {contents : List (Option String)} {v : Value} {body : String}

/-- The ways in which an optional text stands in a record: without a text there is no field, or a
null. -/
inductive TextField : Option String → Option Value → Prop where
  | absent : TextField none none
  | null : TextField none (some .null)
  | text (s : String) : TextField (some s) (some (.ofString s))

def Block.EncodedBy (b : Block) (v : Value) : Prop :=
  ∃ field, TextField b.text field ∧
    v.HasFields [("type", some (.ofString b.kind)), ("text", field)]

/-- The body encodes a reply with these content blocks. -/
def EncodesBlocks (bs : List Block) (body : String) : Prop :=
  ∃ items v, List.Forall₂ Block.EncodedBy bs items ∧
    v.HasFields [("content", some (.array items))] ∧ IsTextOf body v

/-- The value encodes a choice with this content. -/
def ChoiceEncodedBy (content : Option String) (v : Value) : Prop :=
  ∃ field message, TextField content field ∧ message.HasFields [("content", field)] ∧
    v.HasFields [("message", some message)]

/-- The body encodes a reply with choices of these contents. -/
def EncodesChoices (contents : List (Option String)) (body : String) : Prop :=
  ∃ items v, List.Forall₂ ChoiceEncodedBy contents items ∧
    v.HasFields [("choices", some (.array items))] ∧ IsTextOf body v

theorem optionalText?_of_textField (h : TextField text field) :
    optionalText? field = some text := by
  cases h <;> rfl

theorem block_ofJson? (h : b.EncodedBy v) : Block.ofJson? v = some b := by
  obtain ⟨field, encoded, fields⟩ := h
  have record : v.record? ["type", "text"] = some [some (.ofString b.kind), field] :=
    Value.record?_of_hasFields fields
  rw [Block.ofJson?, record]
  show (optionalText? field).map (fun t => (⟨b.kind, t⟩ : Block)) = some b
  rw [optionalText?_of_textField encoded]
  rfl

theorem choiceContent?_of_encoded (h : ChoiceEncodedBy text v) : choiceContent? v = some text := by
  obtain ⟨field, message, encoded, inner, outer⟩ := h
  have choice : v.record? ["message"] = some [some message] := Value.record?_of_hasFields outer
  have content : message.record? ["content"] = some [field] := Value.record?_of_hasFields inner
  rw [choiceContent?, choice]
  simp only [content]
  exact optionalText?_of_textField encoded

theorem mapM_of_forall₂ {α β : Type} {R : α → β → Prop} {f : β → Option α} {as : List α}
    {bs : List β} (h : List.Forall₂ R as bs) (read : ∀ {a b}, R a b → f b = some a) :
    bs.mapM f = some as := by
  induction h with
  | nil => rfl
  | cons first _ ih =>
    rw [List.mapM_cons, read first, ih]
    rfl

theorem replyText?_of_encodesBlocks (h : EncodesBlocks bs body) :
    replyText? .anthropic body = some (blocksText bs) := by
  obtain ⟨items, v, encoded, fields, text⟩ := h
  have record : v.record? ["content"] = some [some (.array items)] :=
    Value.record?_of_hasFields fields
  have read : blocks? v = some bs := by
    rw [blocks?, record]
    exact mapM_of_forall₂ encoded block_ofJson?
  rw [replyText?, read?_of_isTextOf text, Option.bind_some]
  simp only [read, Option.map_some]

theorem replyText?_of_encodesChoices (h : EncodesChoices contents body) :
    replyText? .openAi body = some (choicesText contents) := by
  obtain ⟨items, v, encoded, fields, text⟩ := h
  have record : v.record? ["choices"] = some [some (.array items)] :=
    Value.record?_of_hasFields fields
  have read : choices? v = some contents := by
    rw [choices?, record]
    exact mapM_of_forall₂ encoded choiceContent?_of_encoded
  rw [replyText?, read?_of_isTextOf text, Option.bind_some]
  simp only [read, Option.map_some]

/-- The texts of the blocks of the kind `text`, one behind the other. -/
def speech (bs : List Block) : List Char :=
  bs.flatMap fun b => if b.kind = "text" then (b.text.getD "").toList else []

/-- The block adds to what a reply says: it is of the kind `text` and has a text. -/
def Block.speaks (b : Block) : Bool := b.kind = "text" && b.text.isSome

theorem blocksText_eq (bs : List Block) : blocksText bs = String.ofList (speech bs) := by
  rw [← String.toList_inj, String.toList_ofList, blocksText]
  induction bs with
  | nil => rfl
  | cons b bs ih =>
    obtain ⟨kind, text⟩ := b
    rw [speech] at ih ⊢
    by_cases here : kind = "text"
    · cases text with
      | none => simpa [here] using ih
      | some s => simp [here, ih]
    · simpa [here] using ih

/-- Blocks that add nothing make no difference, wherever they stand. -/
theorem speech_filter (bs : List Block) : speech (bs.filter Block.speaks) = speech bs := by
  induction bs with
  | nil => rfl
  | cons b bs ih =>
    obtain ⟨kind, text⟩ := b
    rw [List.filter_cons]
    rw [speech] at ih ⊢
    by_cases here : kind = "text"
    · cases text with
      | none => simpa [Block.speaks, here, speech] using ih
      | some s => simpa [Block.speaks, here, speech] using ih
    · simpa [Block.speaks, here, speech] using ih

end Agent

namespace Settings
open Agent

variable {s : Settings} {status : Nat}

/-- What a call makes of the text in a reply: a blank one is as good as none. -/
def tell (s : Settings) (text : String) : Except RepairError String :=
  if isBlankText text then .error (.noText s.backend) else .ok text

theorem answer_of_replyText? {body text : String} (success : Web.isSuccess status = true)
    (read : replyText? s.backend body = some text) :
    s.answer (some ⟨status, utf8 body⟩) = s.tell text := by
  rw [answer, if_pos success, lossyText_utf8, read]
  rfl

theorem answer_of_encodesBlocks {bs : List Block} {body : String}
    (success : Web.isSuccess status = true) (service : s.backend = .anthropic)
    (encodes : EncodesBlocks bs body) :
    s.answer (some ⟨status, utf8 body⟩) = s.tell (String.ofList (speech bs)) := by
  refine answer_of_replyText? success ?_
  rw [service, replyText?_of_encodesBlocks encodes, blocksText_eq]

theorem tell_eq_ok_iff {text said : String} :
    s.tell said = .ok text ↔ said = text ∧ isBlankText text = false := by
  unfold tell
  split
  · rename_i blank
    constructor
    · intro h
      cases h
    · rintro ⟨rfl, filled⟩
      rw [blank] at filled
      cases filled
  · rename_i filled
    constructor
    · intro h
      obtain rfl := Except.ok.inj h
      exact ⟨rfl, Bool.eq_false_iff.mpr filled⟩
    · rintro ⟨rfl, -⟩
      rfl

theorem tell_eq_error_iff {said : String} :
    s.tell said = .error (.noText s.backend) ↔ isBlankText said = true := by
  unfold tell
  split
  · rename_i blank
    simp [blank]
  · rename_i filled
    simp [filled]

/-- Of a reply with content blocks comes the text of those of the kind `text`, one behind the other,
whatever other blocks stand between them; of a reply with choices comes the content of the first
alone. There is a complaint instead exactly if that is blank or missing. All this holds for every
body that encodes the reply: a JSON text of it with its fields in any order and any others around
them. -/
theorem answer_encoded (s : Settings) (success : Web.isSuccess status = true) :
    (RepairError.noText s.backend).layers =
        [.text (s.backend.name ++ " response contained no text")] ∧
      (s.backend = .anthropic → ∀ bs body, EncodesBlocks bs body →
        let said := String.ofList (speech bs)
        s.answer (some ⟨status, utf8 body⟩) =
            (if isBlankText said then .error (.noText s.backend) else .ok said) ∧
          ∀ bs' body', EncodesBlocks bs' body' →
            bs'.filter Block.speaks = bs.filter Block.speaks →
              s.answer (some ⟨status, utf8 body'⟩) = s.answer (some ⟨status, utf8 body⟩)) ∧
      (s.backend = .openAi → ∀ contents body, EncodesChoices contents body →
        let answer := s.answer (some ⟨status, utf8 body⟩)
        (∀ text, answer = .ok text ↔
            contents.head? = some (some text) ∧ isBlankText text = false) ∧
          (answer = .error (.noText s.backend) ↔
            ∀ text, contents.head? = some (some text) → isBlankText text = true)) := by
  refine ⟨rfl, fun service bs body encodes => ?_, fun service contents body encodes => ?_⟩
  · have said := answer_of_encodesBlocks success service encodes
    refine ⟨said, fun bs' body' encodes' same => ?_⟩
    rw [answer_of_encodesBlocks success service encodes', said, ← speech_filter bs', same,
      speech_filter]
  · intro answer
    have said : answer = s.tell (choicesText contents) := by
      refine answer_of_replyText? success ?_
      rw [service, replyText?_of_encodesChoices encodes]
    have blank : isBlankText "" = true := rfl
    rw [said]
    cases contents with
    | nil => simp [tell_eq_ok_iff, tell_eq_error_iff, choicesText, blank]
    | cons first rest =>
      cases first with
      | none => simp [tell_eq_ok_iff, tell_eq_error_iff, choicesText, blank]
      | some text => simp [tell_eq_ok_iff, tell_eq_error_iff, choicesText]

/-- A thought between two pieces of text, the first with its fields in another order and with a
field that nobody knows. -/
def mixedContent : List Json.Value :=
  [.ofMembers [("text", .ofString "fn \"a\"\n"),
      ("notes", .array [.number "-1e9", .text none]), ("type", .ofString "text")],
    .ofMembers [("type", .ofString "thinking"), ("text", .ofString "hm"), ("kept", .bool true)],
    .ofMembers [("type", .ofString "text"), ("text", .null)],
    .ofMembers [("type", .ofString "text"), ("text", .ofString "ü")]]

/-- A reply with two choices, of which the first says nothing. -/
def silentChoices : List Json.Value :=
  [.ofMembers [("index", .number "0"), ("message", .ofMembers [("role", .ofString "assistant")])],
    .ofMembers [("message", .ofMembers [("content", .ofString "late")])]]

theorem answer_encoded_mixed :
    Settings.answer ⟨.anthropic, "m", "k", 1, 1, none⟩ (some ⟨200, utf8
        (Json.Value.ofMembers [("id", .null), ("content", .array mixedContent)]).pretty⟩) =
      .ok "fn \"a\"\nü" ∧
    Settings.answer ⟨.openAi, "m", "k", 1, 1, none⟩ (some ⟨201, utf8
        (Json.Value.ofMembers [("choices", .array silentChoices), ("id", .null)]).pretty⟩) =
      .error (.noText .openAi) := by
  obtain ⟨-, blocks, -⟩ := @answer_encoded 200 ⟨.anthropic, "m", "k", 1, 1, none⟩ rfl
  obtain ⟨-, -, choices⟩ := @answer_encoded 201 ⟨.openAi, "m", "k", 1, 1, none⟩ rfl
  constructor
  · have encodes : EncodesBlocks
        [⟨"text", some "fn \"a\"\n"⟩, ⟨"thinking", some "hm"⟩, ⟨"text", none⟩, ⟨"text", some "ü"⟩]
        (Json.Value.ofMembers [("id", .null), ("content", .array mixedContent)]).pretty := by
      refine ⟨mixedContent, _, ?_, ⟨_, rfl, by simp⟩, Json.isTextOf_pretty fun n mem => ?_⟩
      · exact .cons ⟨_, .text _, _, rfl, by simp⟩ <| .cons ⟨_, .text _, _, rfl, by simp⟩ <|
          .cons ⟨_, .null, _, rfl, by simp⟩ <| .cons ⟨_, .text _, _, rfl, by simp⟩ .nil
      · obtain rfl : n = "-1e9" := by
          simpa [mixedContent, Json.Value.tokens, Json.itemsTokens, Json.membersTokens,
            Json.Value.ofMembers, Json.Value.ofString] using mem
        have one : Json.IsWhole ['1'] := .run (Json.isDigitRun_singleton rfl) (by decide)
        have power : Json.IsPower ['e', '9'] :=
          .power (.inl rfl) (.inl rfl) (Json.isDigitRun_singleton rfl)
        exact .negative one .none power
    exact (blocks rfl _ _ encodes).1
  · have encodes : EncodesChoices [none, some "late"]
        (Json.Value.ofMembers [("choices", .array silentChoices), ("id", .null)]).pretty := by
      refine ⟨silentChoices, _, ?_, ⟨_, rfl, by simp⟩, Json.isTextOf_pretty fun n mem => ?_⟩
      · have first : (Json.Value.ofMembers [("role", .ofString "assistant")]).HasFields
            [("content", none)] := ⟨_, rfl, by simp⟩
        have second : (Json.Value.ofMembers [("content", .ofString "late")]).HasFields
            [("content", some (.ofString "late"))] := ⟨_, rfl, by simp⟩
        exact .cons ⟨none, _, .absent, first, _, rfl, by simp⟩ <|
          .cons ⟨_, _, .text _, second, _, rfl, by simp⟩ .nil
      · obtain rfl : n = "0" := by
          simpa [silentChoices, Json.Value.tokens, Json.itemsTokens, Json.membersTokens,
            Json.Value.ofMembers, Json.Value.ofString] using mem
        exact .positive .zero .none .none
    exact (choices rfl _ _ encodes).2.mpr (by simp)

end Settings
end LintRepair
