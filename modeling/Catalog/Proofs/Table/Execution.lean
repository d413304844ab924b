import Catalog.Proofs.Table.Statement

namespace Catalog.Sql

variable {like : String → String → Bool} {s : Stamp} {t : Table} {e : Entry}

theorem meetsAll_nil : meetsAll like s [] e = true := rfl

theorem meetsAll_cons (c : Condition Value) (cs : List (Condition Value)) :
    meetsAll like s (c :: cs) e = (c.meets like s e.row && meetsAll like s cs e) := rfl

theorem meets_id (id : Int64) :
    (Condition.equal .id (.ofInt id)).meets like s e.row = decide (e.id = id) := by
  simp only [Condition.meets, Value.ofInt, Value.datum, Datum.isNull, Store.Row.get, Entry.row,
    Option.map_some, Option.isNone_some, Bool.not_false, Bool.true_and, Datum.integer.injEq,
    Option.some.injEq, Int64.toInt_inj]

theorem meets_code (code : String) :
    (Condition.equal .code (.ofText code)).meets like s e.row = decide (e.code = code) := by
  simp only [Condition.meets, Value.ofText, Value.datum, Datum.isNull, Store.Row.get, Entry.row,
    Option.isNone_some, Bool.not_false, Bool.true_and, Datum.text.injEq, Option.some.injEq]

theorem meets_active : (Condition.isNull .deletedAt).meets like s e.row = e.isActive := rfl

theorem meets_deleted : (Condition.isNotNull .deletedAt).meets like s e.row = !e.isActive := rfl

theorem execute_update {settings : List (Column × Setting Value)} {g : Entry → Entry}
    (conditions : List (Condition Value)) (hg : ∀ e, (g e).id = e.id)
    (h : ∀ e, rewritten s settings e = .ok (g e)) :
    (Statement.update settings conditions).execute like s t =
      .ok ((t.entries.filter (meetsAll like s conditions)).map g,
        t.modify (meetsAll like s conditions) g hg) := by
  have hr : rewritten s settings = fun e => pure (g e) := funext h
  have hm : t.entries.mapM (fun e =>
      if meetsAll like s conditions e then rewritten s settings e else pure e) =
      .ok (t.modify (meetsAll like s conditions) g hg).entries := by
    rw [hr]
    simp only [← apply_ite pure]
    exact List.mapM_pure
  have hw : (t.entries.filter (meetsAll like s conditions)).mapM (rewritten s settings) =
      .ok ((t.entries.filter (meetsAll like s conditions)).map g) := by
    rw [hr]
    exact List.mapM_pure
  simp only [Statement.execute]
  rw [hm, hw]
  simp only [Table.of, bind, Except.bind, (t.modify _ g hg).nodup, ↓reduceDIte]
  rfl

theorem execute_insert {columns : List (Column × Value)}
    (h : columns.foldlM (fun r p => r.set p.1 (p.2.datum s)) (Store.Row.blank s) = .ok e.row) :
    (Statement.insert columns).execute like s t =
      if he : e.id ∉ t.entries.map Entry.id then .ok ([e], t.add e he) else .error idTaken := by
  simp only [Statement.execute]
  rw [h]
  simp only [bind, Except.bind, Store.Row.stored, Entry.entry_row, Table.of,
    Table.nodup_append_iff]
  by_cases he : e.id ∉ t.entries.map Entry.id
  · rw [dif_pos he, dif_pos he]
    rfl
  · rw [dif_neg he, dif_neg he]

end Catalog.Sql
