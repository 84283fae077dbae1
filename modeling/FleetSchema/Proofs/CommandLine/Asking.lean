/-
**Asking for consent.**

A question to be confirmed is put once, whatever options the prompts know, and uses up one answer.

* `perform_confirm`: what confirming comes to;
* `perform_agreeing`: a command goes on behind a question only with an answer that counts.
-/

import FleetSchema.Proofs.CommandLine.Stages

namespace FleetSchema

open FleetSchema.Action

namespace Prompt

/-! ### Questions -/

theorem perform_put (kind : PromptKind) (message : String) (options : List (String × Value))
    (session : Session) :
    (put kind message options).perform session =
      if understands session.prompts.support options then
        (.ok (), session.adding (.console (.prompt kind message options)))
      else
        (.error (.defect (.unknownOption "unexpected keyword argument")),
          session.adding (.console (.rejected kind (options.map (·.1))))) := by
  unfold put
  rw [perform_bind, perform_get]
  dsimp only
  split
  · rfl
  · rfl

/-- A question to be confirmed is an event of the kind of questions. -/
theorem areOf_question (message : String) (options : List (String × Value)) :
    AreOf [.question] [.console (.prompt .confirm message options)] := by
  intro event member
  rw [List.mem_singleton.mp member]
  exact Or.inr List.mem_cons_self

/-- A question to be confirmed is put once, unless all its forms are refused. -/
theorem perform_ask_confirm {message : String} {options : List (String × Value)}
    {session last : Session} {outcome : Except Fault Unit}
    (performed : (ask .confirm message options).perform session = (outcome, last)) :
    (∃ fault, outcome = .error fault ∧ session.Extends [] false last) ∨
      (outcome = .ok () ∧ last.prompts = session.prompts ∧ last.devices = session.devices ∧
        last.tree = session.tree ∧ ∃ added, last.events = session.events ++ added ∧
          AreOf [.question] added ∧ questionsIn added = [titled message]) := by
  unfold ask at performed
  rw [perform_onFault, perform_put] at performed
  by_cases understood : understands session.prompts.support options = true
  · rw [if_pos understood] at performed
    cases performed
    exact Or.inr ⟨rfl, rfl, rfl, rfl, _, rfl, areOf_question _ _, rfl⟩
  · rw [if_neg understood] at performed
    dsimp only at performed
    rw [perform_put] at performed
    have refused : session.Extends [] false (session.adding
        (.console (.rejected .confirm (options.map (·.1))))) :=
      session.extends_adding (Or.inl rfl) rfl
    split at performed
    · cases performed
      refine Or.inr ⟨rfl, rfl, rfl, rfl, _, List.append_assoc _ _ _, ?_, rfl⟩
      exact AreOf.append
        (fun event member => by rw [List.mem_singleton.mp member]; exact Or.inl rfl)
        (areOf_question _ _)
    · cases performed
      exact Or.inl ⟨_, rfl, refused.trans (Session.extends_adding _ (Or.inl rfl) rfl)⟩

/-- A session with an answer to a question to be confirmed used up. -/
def answering (session : Session) : Session :=
  { session with prompts :=
    { session.prompts with confirmations := session.prompts.confirmations.drop 1 } }

theorem perform_nextConfirmation (session : Session) :
    nextConfirmation.perform session =
      (.ok (session.prompts.confirmations.getD 0 .null), answering session) := by
  unfold nextConfirmation
  rw [perform_bind, perform_get]
  dsimp only
  cases session with
  | mk events tree web prompts threshold turns =>
    obtain ⟨pickings, confirmations, support⟩ := prompts
    cases confirmations with
    | nil => rfl
    | cons first rest => rfl

/-- What confirming comes to: a question without an answer that can be had, or the question that was
put and whether its answer counts as given. -/
theorem perform_confirm {message : String} {agreed : Bool} {session last : Session}
    {outcome : Except Fault Bool}
    (performed : (confirm message agreed).perform session = (outcome, last)) :
    (∃ fault, outcome = .error fault ∧ session.Extends [] false last) ∨
      (outcome = .ok (session.prompts.confirmations.getD 0 .null).truthy ∧
        session.Extends [.question] false last ∧
        questionsIn (session.since last) = [titled message]) := by
  unfold confirm at performed
  obtain ⟨fault, ended, rfl⟩ | ⟨_, first, printed, performed⟩ := perform_bind_cases performed
  · exact Or.inl ⟨fault, rfl, (within_print _).of_perform ended⟩
  have hint : session.Extends [] false first := (within_print _).of_perform printed
  obtain ⟨fault, ended, rfl⟩ | ⟨_, second, asked, performed⟩ := perform_bind_cases performed
  · obtain ⟨_, _, refused⟩ | ⟨answered, _⟩ := perform_ask_confirm ended
    · exact Or.inl ⟨fault, rfl, hint.trans refused⟩
    · cases answered
  rw [perform_bind, perform_nextConfirmation] at performed
  cases performed
  obtain ⟨_, refused, _⟩ | ⟨_, prompts, devices, tree, added, events, areOf, put⟩ :=
    perform_ask_confirm asked
  · cases refused
  have question : first.Extends [.question] false (answering second) := by
    refine .of_events events areOf ?_ devices fun _ => tree
    unfold answering
    rw [put, prompts]
    rfl
  have since : first.since (answering second) = added := Session.since_eq events
  have asking := hint.loosen.trans question
  refine Or.inr ⟨?_, asking, ?_⟩
  · rw [prompts, hint.confirmations, hint.areOf.questionsIn_eq_nil List.not_mem_nil]
    rfl
  · rw [hint.questionsIn_behind List.not_mem_nil question, since, put]

end Prompt

/-! ### Going on with consent -/

namespace ApplyRequest

/-- What becomes of a question to be confirmed in a command. -/
theorem perform_plainly_confirm {message : String} {agreed : Bool} {session last : Session}
    {outcome : Except Stop Bool}
    (performed : (Stop.plainly (Prompt.confirm message agreed)).perform session = (outcome, last)) :
    ((∃ stop, outcome = .error stop) ∧ session.Extends [] false last) ∨
      (outcome = .ok (session.prompts.confirmations.getD 0 .null).truthy ∧
        session.Extends [.question] false last ∧
        questionsIn (session.since last) = [Prompt.titled message]) := by
  unfold Stop.plainly at performed
  rw [perform_onFault] at performed
  cases confirmed : (Prompt.confirm message agreed).perform session with
  | mk ended reached =>
    rw [confirmed] at performed
    obtain ⟨fault, rfl, quiet⟩ | ⟨rfl, asked⟩ := Prompt.perform_confirm confirmed
    · cases performed
      exact Or.inl ⟨⟨_, rfl⟩, quiet⟩
    · cases performed
      exact Or.inr ⟨rfl, asked⟩

/-- **A command goes on behind a question only with an answer that counts as given.** -/
theorem perform_agreeing {message : String} {session last : Session} {outcome : Except Stop Unit}
    (performed : (agreeing message).perform session = (outcome, last)) :
    session.Extends [.question] false last ∧
      (∀ asked ∈ questionsIn (session.since last), asked = Prompt.titled message) ∧
      ((∃ stop, outcome = .error stop) ∨
        outcome = .ok () ∧ Agreed session.prompts.confirmations (session.since last) message) := by
  unfold agreeing at performed
  obtain ⟨stop, ended, rfl⟩ | ⟨agreed, first, asked, performed⟩ := perform_bind_cases performed
  · obtain ⟨_, quiet⟩ | ⟨answered, _⟩ := perform_plainly_confirm ended
    · refine ⟨quiet.loosen, ?_, Or.inl ⟨stop, rfl⟩⟩
      rw [quiet.areOf.questionsIn_eq_nil List.not_mem_nil]
      exact fun asked member => absurd member List.not_mem_nil
    · cases answered
  · obtain ⟨⟨_, ended⟩, _⟩ | ⟨isAnswer, extended, questions⟩ := perform_plainly_confirm asked
    · cases ended
    have onlyThis : ∀ asked ∈ questionsIn (session.since first), asked = Prompt.titled message := by
      rw [questions]
      exact fun asked member => List.mem_singleton.mp member
    split at performed
    · rename_i counts
      cases performed
      refine ⟨extended, onlyThis, Or.inr ⟨rfl, 0, ?_, ?_⟩⟩
      · rw [questions]
        rfl
      · rw [← Except.ok.inj isAnswer]
        exact counts
    · have quiet : first.Extends [] false last := (Stop.within_okExit _).of_perform performed
      rw [Stop.perform_okExit (by decide)] at performed
      refine ⟨extended.trans quiet.loosen, ?_, Or.inl ⟨_, (Prod.mk.inj performed).1.symm⟩⟩
      rw [extended.questionsIn_before quiet List.not_mem_nil]
      exact onlyThis

end ApplyRequest

end FleetSchema
