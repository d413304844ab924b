import Catalog.Proofs.Store.Deadline
import Catalog.Proofs.Store.Machine

namespace Catalog

def DatabaseError.ofConnection? : DatabaseError → Option String
  | .acquireTimeout => some "Connection pool timed out"
  | .acquireClosed => some "Connection closed"
  | .connection reason => some reason
  | _ => none

/-- Which failure an error is to become. -/
structure Failure.StandsFor (failure : Failure) (e : DatabaseError) : Prop where
  connection : ∀ reason, e.ofConnection? = some reason → failure = .unavailable reason
  missing : ∀ what, e = .recordNotFound what → failure = .notFound
  statement : e.ofConnection? = none → (∀ what, e ≠ .recordNotFound what) →
    failure = .database e

theorem Failure.standsFor_ofDatabase (e : DatabaseError) : (ofDatabase e).StandsFor e := by
  constructor
  · intro reason h
    cases e <;> cases h <;> rfl
  · rintro what rfl
    rfl
  · intro hc hm
    cases e with
    | acquireTimeout | acquireClosed | connection reason => cases hc
    | recordNotFound what => exact absurd rfl (hm what)
    | _ => rfl

theorem Failure.ofConnection?_of_ofDatabase {e : DatabaseError} {reason : String}
    (h : ofDatabase e = .unavailable reason) : e.ofConnection? = some reason := by
  cases e <;> cases h <;> rfl

namespace Store

open Script

variable {α : Type}

theorem last_of_heeds {m : Session Sql.Request (fun _ => Reply) (Except Failure α)}
    (hm : Heeds m) {script : Script} {i : Nat} {r : Session.Timed Reply} {e : DatabaseError}
    (hr : (script.take (m.run next script).asked.length)[i]? = some r) (he : r.answer = .error e) :
    i + 1 = (m.run next script).asked.length ∧
      (m.run next script).result = .error (.ofDatabase e) := by
  induction m generalizing script i with
  | done a => cases hr
  | ask q rest ih =>
    cases script with
    | nil =>
      rw [List.take_nil] at hr
      cases hr
    | cons r' rs =>
      obtain ⟨d, e' | found⟩ := r'
      · -- the conversation is over, so there is no other reply
        rw [run_next_error hm] at hr ⊢
        cases i with
        | zero =>
          cases hr
          cases he
          exact ⟨rfl, rfl⟩
        | succ i => cases hr
      · cases i with
        | zero =>
          cases hr
          cases he
        | succ i =>
          have hrest : (rs.take ((rest (.ok found)).run next rs).asked.length)[i]? = some r := hr
          obtain ⟨hi, hresult⟩ := ih (.ok found) (hm.2 found) hrest
          exact ⟨congrArg (· + 1) hi, hresult⟩

/-- An error among the replies that come in time is the last of them. The call fails as it says, and
only an error of the connection makes the database unavailable. -/
theorem errors_heeded (b : Backend) (limit : Duration) (c : Call) (script : Script) :
    let t := perform (Command.storeFor b) limit c script
    let taken := script.take t.asked.length
    delay taken ≤ limit.nanos →
      (∀ i r e, taken[i]? = some r → r.answer = .error e →
        i + 1 = t.asked.length ∧ ∃ failure, t.result = .error failure ∧ failure.StandsFor e) ∧
      (∀ reason, t.result = .error (.unavailable reason) →
        ∃ r ∈ taken, ∃ e, r.answer = .error e ∧ e.ofConnection? = some reason) ∧
      ∀ a, t.result = .ok a → ∀ r ∈ taken, ∀ e, r.answer ≠ .error e := by
  intro t taken h
  have ht : t = (Command.storeFor b c).run.run next script := perform_of_taken h
  have htaken : taken = script.take ((Command.storeFor b c).run.run next script).asked.length :=
    congrArg (fun u => script.take u.asked.length) ht
  have hlast {i : Nat} {r : Session.Timed Reply} {e : DatabaseError} (hr : taken[i]? = some r)
      (he : r.answer = .error e) :
      i + 1 = t.asked.length ∧ t.result = .error (.ofDatabase e) := by
    rw [ht]
    exact last_of_heeds (heeds_storeFor b c) (htaken ▸ hr) he
  refine ⟨?_, ?_, ?_⟩
  · intro i r e hr he
    obtain ⟨hi, hresult⟩ := hlast hr he
    exact ⟨hi, _, hresult, Failure.standsFor_ofDatabase e⟩
  · intro reason hresult
    rcases failure_of_heeds (heeds_storeFor b c) (ht ▸ hresult) with hown | ⟨r, hr, e, he, hf⟩
    · exact hown.elim
    · exact ⟨r, htaken ▸ hr, e, he, Failure.ofConnection?_of_ofDatabase hf.symm⟩
  · intro a hresult r hr e he
    obtain ⟨i, hi⟩ := List.mem_iff_getElem?.1 hr
    cases hresult.symm.trans (hlast hi he).2

theorem errors_heeded_lost_connection :
    let found := Draft.entry ⟨"A", "first"⟩ .first "clerk"
    let script : Script :=
      [⟨⟨1⟩, .ok [found.row]⟩, ⟨⟨4⟩, .error (.connection "refused")⟩, ⟨⟨1⟩, .ok []⟩]
    let t := perform (Command.storeFor .orm) ⟨5⟩ (.delete 1 "clerk") script
    delay (script.take t.asked.length) ≤ 5 ∧ t.asked.length = 2 ∧
      t.result = .error (.unavailable "refused") := by
  intro found script t
  have h : delay (script.take t.asked.length) ≤ 5 := by decide +kernel
  obtain ⟨hi, failure, hresult, hstands⟩ :=
    (errors_heeded .orm ⟨5⟩ (.delete 1 "clerk") script h).1 1 _ _ rfl rfl
  cases hstands.connection "refused" rfl
  exact ⟨h, hi.symm, hresult⟩

end Store

end Catalog
