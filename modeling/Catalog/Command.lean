import Catalog.CommandLine.Basic
import Catalog.Entry.Record
import Catalog.Json.Printer
import Catalog.Listing.Query
import Catalog.Migration.Basic
import Catalog.Address.Basic
import Catalog.Settings.Basic
import Catalog.Store.Mapped
import Catalog.Store.Script
import Catalog.Store.Written

namespace Catalog.Command

structure Output where
  result : Except Failure Unit
  printed : String

def print (v : Json) : Output :=
  ⟨.ok (), v.pretty ++ "\n"⟩

def silent : Output := ⟨.ok (), ""⟩

def fail (f : Failure) : Output :=
  ⟨.error f, ""⟩

def preview (f : Filter) : Json :=
  .ofMembers [
    ("sql", .text f.sql),
    ("arguments", .arr (f.arguments.map .text)),
    ("placeholders", .ofMembers (Filter.Field.all.map fun k => (k.name, .text (f.token k))))]

def sql (f : Filter) : Output := print (preview f)

def answer (c : Service.Call) (a : c.Answer) : Json :=
  match c with
  | .list _ => .arr ((show List Entry from a).map Entry.toResponse)
  | .get _ | .create _ | .update .. | .restore _ => (show Entry from a).toResponse
  | .delete id => .ofMembers [("deleted", .int id.toInt)]

def entries (c : Service.Call) :
    Session Service.Call (fun c => Except Failure c.Answer) Output :=
  .ask c fun r =>
    .done <| match r with
      | .ok a => print (answer c a)
      | .error f => fail f

def storeFor : Backend → Store.Behaviour
  | .orm => Store.Mapped.store
  | .sql => Store.Written.store

def overStore (actor : String) (c : Service.Call) :
    Session Store.Call (fun c => Except Failure c.Answer) Output :=
  (entries c).through fun c => (Service.perform actor c).run

/-- A command on entries over a database that answers from a script. -/
def run (s : Settings) (c : Service.Call) (script : Store.Script) : Output × List Sql.Request :=
  let t := (overStore s.actor c).run
    (fun call conn => Store.Connection.perform (storeFor s.backend) s.queryTimeout call conn)
    ⟨script, []⟩
  (t.result, t.state.sent)

def overview (ms : List (String × Bool)) : Json :=
  .arr (ms.map fun m => .ofMembers [("name", .text m.1), ("applied", .bool m.2)])

/-- What a command on migrations does with the database, with a wording for its errors. There is no
output of one that halts. -/
def migration (wording : DatabaseError → Failure) :
    CommandLine.MigrateAction → Session Migration.Step Migration.Step.Reply (Option Output)
  | .up => ending (fun () => some silent) Migration.up
  | .down => ending (fun () => some silent) Migration.down
  | .status => ending (fun ms => some (print (overview ms))) Migration.status
  | .fresh => ending (fun _ => none) Migration.fresh
where
  ending {α : Type} (shown : α → Option Output) (course : Migration.Course α) :
      Session Migration.Step Migration.Step.Reply (Option Output) :=
    course.run.bind fun r =>
      .done <| match r with
        | .ok a => shown a
        | .error e => some (fail (wording e))

def migrate : CommandLine.MigrateAction →
    Session Migration.Step Migration.Step.Reply (Option Output) :=
  migration Migration.failure

/-- Applies the migrations that are not in force. A command on entries begins with this. -/
def prepare : Session Migration.Step Migration.Step.Reply (Option Output) :=
  migration Failure.ofDatabase .up

/-- The failure of a command that needs a database with an address that is refused. -/
def refused? (s : Settings) : Option Failure :=
  (Address.refusal? s.databaseUrl).map .unavailable

end Catalog.Command
