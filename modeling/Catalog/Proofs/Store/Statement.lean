import Catalog.Proofs.Session.Reliance
import Catalog.Proofs.Store.Audit

namespace Catalog.Store

open Sql

variable {like : String → String → Bool} {α β : Type} {t : Table}

theorem cutOff_bind (m : Conversation α) (f : α → Conversation β) (late : Failure) :
    (m >>= f).run.cutOff (.error late) = (m.run.cutOff (.error late)).bind fun
      | .ok a => (f a).run.cutOff (.error late)
      | .error failure => .done (.error failure) := by
  change (m.run.bind (ExceptT.bindCont f)).cutOff _ = _
  induction m.run with
  | done r => cases r <;> rfl
  | ask q next ih =>
    simp only [Session.bind, Session.cutOff]
    congr 1
    funext reply
    cases reply with
    | none => rfl
    | some r => exact ih r

/-- What may come of a conversation of one statement, whatever becomes of that statement. -/
def Comes (like : String → String → Bool) (m : Conversation α) (t : Table) (r : Except Failure α)
    (u : Table) : Prop :=
  (∃ s, m.on like s t = (r, u)) ∨
    (∃ failure, r = .error failure) ∧ (u = t ∨ ∃ s, u = (m.on like s t).2)

theorem Comes.state {m : Conversation α} {r : Except Failure α} {u : Table}
    (h : Comes like m t r u) : u = t ∨ ∃ s, u = (m.on like s t).2 := by
  rcases h with ⟨s, h⟩ | ⟨_, h⟩
  · exact .inr ⟨s, by rw [h]⟩
  · exact h

theorem Comes.reading {m : Conversation α} {a : α} {r : Except Failure α} {u : Table}
    (h : Comes like m t r u) (hm : ∀ s, m.on like s t = (.ok a, t)) :
    u = t ∧ ∀ b, r = .ok b → b = a := by
  rcases h with ⟨s, h⟩ | ⟨⟨failure, hr⟩, hu⟩
  · rw [hm s] at h
    cases h
    exact ⟨rfl, fun b hb => (Except.ok.inj hb).symm⟩
  · refine ⟨hu.elim id fun ⟨s, hs⟩ => hs.trans (congrArg Prod.snd (hm s)), fun b hb => ?_⟩
    rw [hr] at hb
    cases hb

theorem relies_statement {m : Conversation α} (hone : m.run.AsksAtMost 1)
    (hasks : ∃ q next, m.run = .ask q next) (hheeds : Heeds m.run) (late : Failure)
    {k : Except Failure α → Session Request (fun _ => Option Reply) β}
    {rely : Table → Table → Prop}
    {step : Table → Session Request (fun _ => Option Reply) β → Table → Prop}
    (h : ∀ v, rely t v → ∀ r u, Comes like m v r u →
      step v (k r) u ∧ (k r).Relies (Fate.answer like) rely step u) :
    ((m.run.cutOff (.error late)).bind k).Relies (Fate.answer like) rely step t := by
  obtain ⟨q, next, hrun⟩ := hasks
  have hon (s : Stamp) (v : Table) : next (Table.answer like s q v).1 = .done (m.on like s v).1 ∧
      (Table.answer like s q v).2 = (m.on like s v).2 := by
    rw [Conversation.on, hrun]
    exact (hrun ▸ hone).next_eq (Table.answer like s) v
  have hran (v : Table) (ran : Option Stamp) :
      afterRun like q v ran = v ∨ ∃ s, afterRun like q v ran = (m.on like s v).2 := by
    cases ran with
    | none => exact .inl rfl
    | some s => exact .inr ⟨s, (hon s v).2⟩
  rw [hrun] at hheeds ⊢
  rw [Session.cutOff, Session.bind, Session.Relies]
  intro fate v hv
  cases fate with
  | answered s =>
    have hcomes := h v hv _ _ (.inl ⟨s, rfl⟩)
    change step v (((next (Table.answer like s q v).1).cutOff _).bind k) _ ∧
      (((next (Table.answer like s q v).1).cutOff _).bind k).Relies _ _ _ _
    rw [(hon s v).1]
    change step v _ (Table.answer like s q v).2 ∧ Session.Relies _ _ _ _ (Table.answer like s q v).2
    rw [(hon s v).2]
    exact hcomes
  | failed e ran =>
    have hcomes := h v hv (.error (.ofDatabase e)) _ (.inr ⟨⟨_, rfl⟩, hran v ran⟩)
    change step v (((next (.error e)).cutOff _).bind k) _ ∧
      (((next (.error e)).cutOff _).bind k).Relies _ _ _ _
    rw [hheeds.1 e]
    exact hcomes
  | late ran =>
    -- a statement cut off may have run
    exact h v hv (.error late) _ (.inr ⟨⟨_, rfl⟩, hran v ran⟩)

theorem on_storeFor (b : Backend) (s : Stamp) (c : Call) :
    (Command.storeFor b c).on like s t = machine like s c t := by
  cases b with
  | orm => exact Mapped.on_table c
  | sql => exact Written.on_table c

end Catalog.Store
