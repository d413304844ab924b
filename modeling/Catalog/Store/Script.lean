import Catalog.Store.Basic

namespace Catalog.Store

open Session (Timed Trace)

abbrev Script := List (Timed Reply)

/-- Answers with the next reply of a script, and with no rows at once when it is used up. -/
def Script.answer (_ : Sql.Request) : Script → Timed Reply × Script
  | [] => (⟨⟨0⟩, .ok []⟩, [])
  | r :: rs => (r, rs)

def withinLimit {α : Type} (limit : Duration) : Option (Except Failure α) → Except Failure α
  | some r => r
  | none => .error (.timeout limit)

def perform (store : Behaviour) (limit : Duration) (c : Call) (script : Script) :
    Trace Sql.Request Script (Except Failure c.Answer) :=
  let t := (store c).run.runWithin limit Script.answer ⟨0⟩ script
  { t with result := withinLimit limit t.result }

structure Connection where
  script : Script
  sent : List Sql.Request

def Connection.perform (store : Behaviour) (limit : Duration) (c : Call) (conn : Connection) :
    Except Failure c.Answer × Connection :=
  let t := Store.perform store limit c conn.script
  (t.result, ⟨t.state, conn.sent ++ t.asked⟩)

/-- What a call makes of the entries that it is handed: all of them, the first, or nothing. -/
def Call.answerOf (c : Call) (entries : List Entry) : Except Failure c.Answer :=
  match c with
  | .list _ => .ok entries
  | .findById _ | .findByCode _ => .ok entries.head?
  | .create .. | .update .. | .restore .. => Failure.orNotFound entries.head?
  | .delete .. => .ok ()

abbrev CallScript := List (Except Failure (List Entry))

/-- Answers a call with the next reply, and with no entries when there is none left. -/
def CallScript.answer (c : Call) : CallScript → Except Failure c.Answer × CallScript
  | [] => (c.answerOf [], [])
  | r :: rs => (r.bind c.answerOf, rs)

end Catalog.Store
