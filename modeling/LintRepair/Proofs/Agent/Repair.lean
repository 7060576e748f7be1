import LintRepair.Agent.Repair
import LintRepair.Proofs.Text.Trim

/-!
What comes back from a completion service is either a repair whose source has text and ends in one
line feed right behind it, or nothing that can be used.
-/
namespace LintRepair

namespace Reply
open Text

/-- The text is not blank and ends in exactly one line feed, with no white space right before it. -/
structure Tidy (text : String) : Prop where
  filled : isBlankText text = false
  ended : ∃ body c, text.toList = body ++ [c, '\n'] ∧ isBlank c = false

theorem exists_eq_trimEnd_of_offered? {reply body : List Char} (h : offered? reply = some body) :
    ∃ cs, body = trimEnd cs := by
  unfold offered? at h
  split at h
  · exact ⟨_, (Option.some.inj h).symm⟩
  · split at h
    · cases h
    · exact ⟨trimStart reply, (Option.some.inj h).symm⟩

theorem tidy_of_source? {reply text : String} (h : source? reply = some text) : Tidy text := by
  unfold source? at h
  split at h
  · cases h
  · rename_i body offered
    split at h
    · cases h
    · rename_i filled
      rw [Bool.not_eq_true] at filled
      obtain rfl := Option.some.inj h
      obtain ⟨cs, trimmed⟩ := exists_eq_trimEnd_of_offered? offered
      have ne : body ≠ [] := by
        rintro rfl
        cases filled
      have last : (trimEnd cs).getLast? = some (body.getLast ne) := by
        rw [← trimmed, List.getLast?_eq_some_getLast ne]
      have visible := isBlank_last_trimEnd last
      constructor
      · rw [isBlankText, String.toList_ofList, Bool.eq_false_iff]
        intro blank
        rw [(allBlank_append.mp blank).1] at filled
        cases filled
      · refine ⟨body.dropLast, body.getLast ne, ?_, visible⟩
        rw [String.toList_ofList]
        nth_rewrite 1 [← List.dropLast_append_getLast ne]
        rw [List.append_assoc, List.singleton_append]

end Reply

namespace Settings
variable {s : Settings} {reply : Option Web.Reply} {r : Repair}

/-- What came back can not be used: nothing came, it does not tell of success, it is no reply of the
service, or its text is blank or offers no source. -/
inductive Useless (s : Settings) : Option Web.Reply → Prop where
  | unsent : Useless s none
  | refused {reply : Web.Reply} (failed : Web.isSuccess reply.status = false) :
      Useless s (some reply)
  | unreadable {reply : Web.Reply}
      (unread : Agent.replyText? s.backend (lossyText reply.body) = none) : Useless s (some reply)
  | blank {reply : Web.Reply} {text : String}
      (read : Agent.replyText? s.backend (lossyText reply.body) = some text)
      (blank : isBlankText text = true) : Useless s (some reply)
  | sourceless {reply : Web.Reply} {text : String}
      (read : Agent.replyText? s.backend (lossyText reply.body) = some text)
      (without : Reply.source? text = none) : Useless s (some reply)

/-- A repair is the source in the text of a reply of the service. -/
theorem exists_of_repairOf (h : s.repairOf reply = .ok r) :
    ∃ arrived, reply = some arrived ∧ Web.isSuccess arrived.status = true ∧
      Agent.replyText? s.backend (lossyText arrived.body) = some r.raw ∧
      isBlankText r.raw = false ∧ Reply.source? r.raw = some r.source := by
  unfold repairOf at h
  split at h
  · cases h
  · rename_i raw answered
    split at h
    · cases h
    · rename_i source offered
      obtain rfl := Except.ok.inj h
      unfold answer at answered
      split at answered
      · cases answered
      · rename_i arrived
        split at answered
        · rename_i success
          split at answered
          · cases answered
          · rename_i text read
            split at answered
            · cases answered
            · rename_i filled
              obtain rfl := Except.ok.inj answered
              exact ⟨arrived, rfl, success, read, Bool.eq_false_iff.mpr filled, offered⟩
        · cases answered

theorem tidy_of_repairOf (h : s.repairOf reply = .ok r) : Reply.Tidy r.source := by
  obtain ⟨arrived, -, -, -, -, offered⟩ := exists_of_repairOf h
  exact Reply.tidy_of_source? offered

theorem Useless.repairOf (useless : s.Useless reply) : ∃ e, s.repairOf reply = .error e := by
  rcases h : s.repairOf reply with e | r
  · exact ⟨e, rfl⟩
  · exfalso
    obtain ⟨arrived, came, success, read, filled, offered⟩ := exists_of_repairOf h
    cases useless with
    | unsent => cases came
    | refused failed =>
      cases came
      rw [failed] at success
      cases success
    | unreadable unread =>
      cases came
      rw [unread] at read
      cases read
    | blank read' blank =>
      cases came
      obtain rfl := Option.some.inj (read'.symm.trans read)
      rw [blank] at filled
      cases filled
    | sourceless read' without =>
      cases came
      obtain rfl := Option.some.inj (read'.symm.trans read)
      rw [without] at offered
      cases offered

end Settings
end LintRepair
