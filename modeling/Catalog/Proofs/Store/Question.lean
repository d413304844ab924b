import Catalog.Store.Script

namespace Catalog

section AsksOnly

variable {Q R α β : Type}

/-- Whether each question is good after the answers before it, whatever they are. -/
def Session.AsksOnly (good : List R → Q → Prop) (before : List R) :
    Session Q (fun _ => R) α → Prop
  | .done _ => True
  | .ask q next => good before q ∧ ∀ r, (next r).AsksOnly good (before ++ [r])

end AsksOnly

namespace Store

open Sql

variable {α β : Type} {good : List Reply → Request → Prop} {before : List Reply}

def Script.replies : Script → Nat → List Reply
  | _, 0 => []
  | [], n + 1 => .ok [] :: replies [] n
  | r :: rs, n + 1 => r.answer :: replies rs n

theorem Script.replies_succ (script : Script) (q : Request) (n : Nat) :
    script.replies (n + 1) = (script.answer q).1.answer :: (script.answer q).2.replies n := by
  cases script <;> rfl

theorem asked_of_asksOnly {m : Session Request (fun _ => Reply) α} (h : m.AsksOnly good before)
    (limit elapsed : Duration) (script : Script) {i : Nat} {q : Request}
    (hq : (m.runWithin limit Script.answer elapsed script).asked[i]? = some q) :
    good (before ++ script.replies i) q := by
  induction m generalizing before elapsed script i with
  | done a => cases hq
  | ask q' next ih =>
    obtain ⟨hgood, hnext⟩ := h
    rw [Session.runWithin] at hq
    cases i with
    | zero =>
      have hfirst : q' = q := by
        dsimp only at hq
        split at hq
        · exact Option.some.inj hq
        · exact Option.some.inj hq
      rw [Script.replies, List.append_nil, ← hfirst]
      exact hgood
    | succ i =>
      dsimp only at hq
      split at hq
      · cases hq
      -- the reply that was taken is now one of those before
      · have hrest := ih _ (hnext _) _ _ hq
        rwa [List.append_assoc, List.singleton_append, ← Script.replies_succ script q'] at hrest

def first? (reply : Reply) : Except DatabaseError (Option Entry) :=
  reply.bind fun found => found.head?.mapM Row.entry

theorem run_firstEntry_bind (q : Request) (f : Option Entry → Conversation α) :
    (firstEntry q >>= f).run = .ask q fun reply => (ofDatabase (first? reply) >>= f).run := by
  apply congrArg (Session.ask q)
  funext reply
  cases reply <;> rfl

theorem asksOnly_firstEntry {r : Request} {f : Option Entry → Conversation α}
    (hr : good before r)
    (hf : ∀ reply e?, first? reply = .ok e? → (f e?).run.AsksOnly good (before ++ [reply])) :
    (firstEntry r >>= f).run.AsksOnly good before := by
  rw [run_firstEntry_bind]
  refine ⟨hr, ?_⟩
  intro reply
  dsimp only
  cases h : first? reply with
  | error e => trivial
  | ok e? => exact hf reply e? h

theorem asksOnly_firstEntry_pure {r : Request} (hr : good before r) :
    (firstEntry r).run.AsksOnly good before := by
  rw [← bind_pure (firstEntry r)]
  apply asksOnly_firstEntry hr
  intro reply e? _
  trivial

end Store

end Catalog
