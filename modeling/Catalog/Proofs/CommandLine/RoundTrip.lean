import Catalog.Proofs.CommandLine.Variable
import Catalog.Proofs.CommandLine.Written
import Catalog.Proofs.Decimal

namespace Catalog

namespace CommandLine

/-- A scope that reads a command from its options and its id. -/
structure Scope.Serves (s : Scope) (c : Command) : Prop where
  commands : s.commands = []
  options : ∀ v ∈ c.options, v.1 ∈ s.options
  slots : s.slots = c.id?.toList.map fun _ => .id
  build : ∃ build, s.build? = some build ∧ ∀ vs : Values,
    (∀ k, vs.text? k = c.options.text? k) → vs.id? = c.id? → build vs = .ok c

theorem Scope.Serves.isPlain {s : Scope} {c : Command} (h : s.Serves c) : s.IsPlain := by
  rw [IsPlain, h.commands]
  exact List.forall_mem_nil _

theorem serves_migrate (name : String) (a : MigrateAction) :
    (migrateScope name a).Serves (.migrate a) where
  commands := rfl
  options := List.forall_mem_nil _
  slots := rfl
  build := ⟨_, rfl, fun _ _ _ => rfl⟩

theorem filterOf_eq {vs : Values} {f : Filter} (h : ∀ k, vs.text? k = (Values.ofFilter f).text? k) :
    filterOf vs = f := by
  simp [filterOf, h, Values.ofFilter]

theorem serves_id {name : String} {call : Int64 → Service.Call} {n : Int64}
    (hid : Command.id? (.entries (call n)) = some n)
    (hoptions : (Command.entries (call n)).options = []) :
    (idScope name call).Serves (.entries (call n)) where
  commands := rfl
  options := by
    rw [hoptions]
    exact List.forall_mem_nil _
  slots := by
    rw [hid]
    rfl
  build := by
    refine ⟨_, rfl, fun vs _ h => ?_⟩
    rw [h, hid]
    rfl

theorem exists_serves_of_path {c : Command} {name : String} (h : c.path = [name]) :
    ∃ s, State.findCommand? root.commands name = some s ∧ s.Serves c := by
  cases c with
  | migrate a => cases a <;> cases h
  | entries call => cases call <;> cases h
  | sql f =>
    cases h
    refine ⟨_, rfl, rfl, ?_, rfl, _, rfl, fun vs h _ => ?_⟩
    · exact fun v hv => (Values.keys_ofFilter f).subset (List.mem_map_of_mem hv)
    · rw [filterOf_eq h]

theorem exists_serves_of_path₂ {c : Command} {group name : String} (h : c.path = [group, name]) :
    ∃ s s', State.findCommand? root.commands group = some s ∧
      State.findCommand? s.commands name = some s' ∧ s'.Serves c := by
  cases c with
  | migrate a => cases a <;> cases h <;> exact ⟨_, _, rfl, rfl, serves_migrate _ _⟩
  | sql f => cases h
  | entries call =>
    cases call with
    | list f =>
      cases h
      refine ⟨_, _, rfl, rfl, rfl, ?_, rfl, _, rfl, fun vs h _ => ?_⟩
      · exact fun v hv => (Values.keys_ofFilter f).subset (List.mem_map_of_mem hv)
      · rw [filterOf_eq h]
    | create d =>
      cases h
      refine ⟨_, _, rfl, rfl, rfl, ?_, rfl, _, rfl, fun vs h _ => ?_⟩
      · exact fun v hv => List.mem_map_of_mem (f := Prod.fst) hv
      · simp only [h]
        rfl
    | update n c =>
      cases h
      refine ⟨_, _, rfl, rfl, rfl, fun v hv => ?_, rfl, _, rfl, fun vs h hid => ?_⟩
      · have hkeys :
            ((Command.entries (.update n c)).options.map Prod.fst).Sublist [.code, .text] := by
          rw [Command.options, List.map_append]
          exact (Values.keys_ofText _ _).append (Values.keys_ofText _ _)
        exact hkeys.subset (List.mem_map_of_mem hv)
      · have hcode : vs.text? .code = c.code := by simp [h, Command.options]
        have htext : vs.text? .text = c.text := by simp [h, Command.options]
        simp only [hcode, htext, hid]
        rfl
    | get n | delete n | restore n => cases h; exact ⟨_, _, rfl, rfl, serves_id rfl rfl⟩

theorem isPlain_root : root.IsPlain := by
  rw [Scope.IsPlain]
  decide

theorem isPlain_of_findCommand? {name : String} {s : Scope}
    (h : State.findCommand? root.commands name = some s) : s.IsPlain := by
  have hall : ∀ s ∈ root.commands, ∀ c ∈ s.commands, c.name.toList.head? ≠ some '-' := by
    decide
  exact hall s (List.mem_of_find?_eq_some h)

def Level.holding (s : Scope) (isRoot : Bool) (vs : Values) : Level :=
  { Level.ofScope s isRoot with values := vs }

theorem Level.resolve_pending {l : Level} {k : Key} {text : String} {v : Value}
    (hpending : l.pending = some (k, some text)) (hnew : l.values.has k = false)
    (hread : k.read text = .ok v) : l.resolve = .ok ({ l with pending := none }.put k v) := by
  rw [resolve, hpending]
  exact settle_of_read hnew hread

theorem Level.finish_none {l l' : Level} {isLast : Bool} (h : l.resolve = .ok l')
    (hlast : (isLast && !l'.scope.commands.isEmpty) = false) :
    l.finish none isLast = .ok l'.values := by
  rw [finish, h]
  change (if !l'.values.has .backend then _ else _) = _
  rw [ite_self, hlast, if_neg Bool.false_ne_true]

namespace State

variable {s : Scope} {isRoot : Bool} {vs : Values} {outer : List Level}

theorem read_options {words : List String} (hwords : List.Forall₂ Gives vs words)
    (hs : s.IsPlain) (hk : ∀ v ∈ vs, v.1 ∈ (Level.ofScope s isRoot).keys)
    (hnodup : (vs.map Prod.fst).Nodup) :
    words.foldlM step (reading outer (.ofScope s isRoot)) =
      .ok (reading outer (.holding s isRoot vs)) :=
  foldlM_options hwords ⟨rfl, rfl, hs⟩ hk hnodup

theorem step_command {name : String} {s' : Scope} (h : findCommand? s.commands name = some s') :
    step (reading outer (.holding s isRoot vs)) name =
      .ok (reading (.holding s isRoot vs :: outer) (.ofScope s' false)) := by
  have hcommand : (Level.holding s isRoot vs).isCommand name = true := by
    have hany : s.commands.any (·.name == name) = true :=
      List.any_eq_true.2 ⟨s', List.mem_of_find?_eq_some h,
        List.find?_some (p := fun c : Scope => c.name == name) h⟩
    change (s.commands.any (·.name == name) || _) = true
    rw [hany, Bool.true_or]
  have hfound : findCommand? (Level.holding s isRoot vs).scope.commands name = some s' := h
  rw [step, hcommand, hfound]
  rfl

theorem step_dashes {l : Level} (hl : l.IsOpen) :
    step (reading outer l) "--" = .ok (reading outer { l with onlySlots := true }) := by
  have hword : l.takeWord "--" = .ok { l with onlySlots := true } := by
    rw [Level.takeWord, hl.onlySlots]
    rfl
  rw [step, Level.isCommand_of_head? hl.plain rfl, Bool.not_false, Bool.or_true, if_pos rfl,
    hword]
  rfl

theorem step_slot {l : Level} {k : Key} {ks : List Key} (hpending : l.pending = none)
    (honly : l.onlySlots = true) (hslots : l.slots = k :: ks) (word : String) :
    step (reading outer l) word =
      .ok (reading outer { l with slots := ks, pending := some (k, some word) }) := by
  have hword : l.takeWord word = .ok { l with slots := ks, pending := some (k, some word) } := by
    rw [Level.takeWord, if_pos honly, Level.takeSlot, hslots, Level.resolve, hpending]
    rfl
  have hslot : (l.onlySlots || l.isWaiting || !l.isCommand word) = true := by
    rw [honly, Bool.true_or, Bool.true_or]
  rw [step, if_pos hslot, hword]
  rfl

theorem read_ending {c : Command} (hs : s.Serves c) (hid : vs.has .id = false)
    (outer : List Level) :
    ∃ l : Level, c.ending.foldlM step (reading outer (.holding s false vs)) =
        .ok (reading outer l) ∧ l.scope = s ∧ l.finish none true = .ok (vs ++ .ofId c.id?) := by
  have hlast : (true && !s.commands.isEmpty) = false := by
    rw [hs.commands]
    rfl
  cases hn : c.id? with
  | none =>
    rw [Command.ending, hn]
    refine ⟨.holding s false vs, rfl, rfl, ?_⟩
    rw [Level.finish_none rfl hlast]
    exact congrArg _ (List.append_nil vs).symm
  | some n =>
    have hslots : s.slots = [.id] := by
      rw [hs.slots, hn]
      rfl
    have hread : Key.id.read (Decimal.ofInt64 n) = .ok (.id n) := by
      rw [Key.read, Decimal.int64?_ofInt64]
    refine ⟨{ Level.holding s false vs with
      onlySlots := true, slots := [], pending := some (.id, some (Decimal.ofInt64 n)) },
      ?_, rfl, Level.finish_none (Level.resolve_pending rfl hid hread) hlast⟩
    rw [Command.ending, hn, List.foldlM_cons, step_dashes ⟨rfl, rfl, hs.isPlain⟩]
    change [Decimal.ofInt64 n].foldlM step _ = _
    rw [List.foldlM_cons, step_slot rfl rfl hslots]
    rfl

theorem read_level {words rest : List String} {name : String} {s' : Scope}
    (hwords : List.Forall₂ Gives vs words) (hs : s.IsPlain)
    (hk : ∀ v ∈ vs, v.1 ∈ (Level.ofScope s isRoot).keys) (hnodup : (vs.map Prod.fst).Nodup)
    (hname : findCommand? s.commands name = some s') :
    (words ++ name :: rest).foldlM step (reading outer (.ofScope s isRoot)) =
      rest.foldlM step (reading (.holding s isRoot vs :: outer) (.ofScope s' false)) := by
  rw [List.foldlM_append, read_options hwords hs hk hnodup]
  change (name :: rest).foldlM step _ = _
  rw [List.foldlM_cons, step_command hname]
  rfl

theorem finishOuter_none (h : ∀ l ∈ outer, l.pending = none) :
    finishOuter none outer = .ok (outer.map Level.values) := by
  induction outer with
  | nil => rfl
  | cons l ls ih =>
    obtain ⟨hl, hls⟩ := List.forall_mem_cons.1 h
    have hresolve : l.resolve = .ok l := by rw [Level.resolve, hl]
    rw [finishOuter, Level.finish_none hresolve (Bool.false_and _), ih hls]
    rfl

end State

theorem parse_of_foldlM {i : Invocation} {words : List String} {s : Scope} {own g : Values}
    (outer : List Level)
    (hread : words.foldlM State.step (.reading [] (.ofScope root true)) =
      .ok (.reading outer (.holding s false own)))
    (hs : s.Serves i.command) (houter : ∀ l ∈ outer, l.pending = none)
    (hglobals : ((outer.map Level.values).flatten ++ g).Perm i.globals)
    (hown : own.Perm (g ++ i.command.options)) :
    parse none (words ++ i.command.ending) = .ok i := by
  -- options that go for all commands may be given at any level
  have hlevels :
      ((own ++ .ofId i.command.id?) :: outer.map Level.values).flatten.Perm i.values := by
    rw [List.flatten_cons, Invocation.values, List.append_assoc i.globals]
    have hinner := hown.append_right (Values.ofId i.command.id?)
    have houter := hglobals.append_right (i.command.options ++ .ofId i.command.id?)
    simp only [List.append_assoc] at hinner houter
    refine List.Perm.trans ?_ (List.perm_append_comm.trans houter)
    exact hinner.append_right _
  have hg : ∀ v ∈ g, v ∈ i.globals := fun v hv =>
    hglobals.subset (List.mem_append_right _ hv)
  obtain ⟨hid, hnone, htext⟩ := lookups_of_perm hg hown (nodup_own hglobals hown)
  obtain ⟨l, hend, hscope, hfinish⟩ := State.read_ending hs hid outer
  obtain ⟨build, hbuild, hcommand⟩ := hs.build
  have hcommand : build (own ++ .ofId i.command.id?) = .ok i.command := by
    refine hcommand _ (fun k => ?_) ?_
    · rw [Values.text?_append, htext, Values.text?_ofId, Option.or_none]
    · rw [Values.id?_append, hnone, Values.id?_ofId, Option.none_or]
  rw [parse, List.foldlM_append, hread]
  change (i.command.ending.foldlM State.step _ >>= _) = _
  rw [hend]
  change State.finish none (.reading outer l) = _
  rw [State.finish, hfinish, hscope, hbuild]
  change (build _ >>= _) = _
  rw [hcommand, State.finishOuter_none houter]
  change Except.ok (State.invocation none i.command _) = _
  rw [State.invocation_of_perm hlevels]

theorem mem_keys_of_mem_globals {i : Invocation} {v : Key × Value} (h : v ∈ i.globals) (l : Level) :
    v.1 ∈ l.keys := by
  rcases i.mem_globals h with rfl | ⟨b, rfl⟩ <;> simp [Level.keys]

theorem mem_keys_of_mem_own {i : Invocation} {s : Scope} {g own : Values} {v : Key × Value}
    (hs : s.Serves i.command) (hg : ∀ v ∈ g, v ∈ i.globals)
    (hown : own.Perm (g ++ i.command.options)) (h : v ∈ own) :
    v.1 ∈ (Level.ofScope s false).keys := by
  rcases List.mem_append.1 (hown.subset h) with h | h
  · exact mem_keys_of_mem_globals (hg v h) _
  · exact List.mem_append_right _ (hs.options v h)

theorem parse_writes {i : Invocation} {words : List String} (h : Writes i words) :
    parse none words = .ok i := by
  cases h with
  | @command name before g own words words' hpath hglobals hown hbefore hafter =>
    obtain ⟨s, hname, hs⟩ := exists_serves_of_path hpath
    have hmem : ∀ v ∈ before ++ g, v ∈ i.globals := fun v hv => hglobals.subset hv
    obtain ⟨hb, hg⟩ := List.forall_mem_append.1 hmem
    refine parse_of_foldlM [.holding root true before] ?_ hs ?_ ?_ hown
    · rw [State.read_level hbefore isPlain_root (fun v hv => mem_keys_of_mem_globals (hb v hv) _)
        (nodup_of_globals hglobals) hname]
      exact State.read_options hafter hs.isPlain (fun v => mem_keys_of_mem_own hs hg hown)
        (nodup_own hglobals hown)
    · simp [Level.holding, Level.ofScope]
    · simpa [Level.holding] using hglobals
  | @action group name before between g own words words' words'' hpath hglobals hown hbefore
      hbetween hafter =>
    obtain ⟨s, s', hgroup, hname, hs⟩ := exists_serves_of_path₂ hpath
    have hmem : ∀ v ∈ before ++ between ++ g, v ∈ i.globals := fun v hv => hglobals.subset hv
    obtain ⟨hout, hg⟩ := List.forall_mem_append.1 hmem
    obtain ⟨hb, hb'⟩ := List.forall_mem_append.1 hout
    have hbefore' : (before ++ (between ++ g)).Perm i.globals := by
      rwa [← List.append_assoc]
    -- read from the outside, but put together from the inside
    have hbetween' : (between ++ (before ++ g)).Perm i.globals := by
      rw [← List.append_assoc]
      exact (List.perm_append_comm.append_right g).trans hglobals
    refine parse_of_foldlM [.holding s false between, .holding root true before] ?_ hs ?_ ?_
      hown
    · rw [List.append_assoc, List.cons_append,
        State.read_level hbefore isPlain_root (fun v hv => mem_keys_of_mem_globals (hb v hv) _)
          (nodup_of_globals hbefore') hgroup,
        State.read_level hbetween (isPlain_of_findCommand? hgroup)
          (fun v hv => mem_keys_of_mem_globals (hb' v hv) _) (nodup_of_globals hbetween') hname]
      exact State.read_options hafter hs.isPlain (fun v => mem_keys_of_mem_own hs hg hown)
        (nodup_own hglobals hown)
    · simp [Level.holding, Level.ofScope]
    · simpa [Level.holding] using hbetween'

end CommandLine

namespace Program

open CommandLine

/-- Each invocation can be written as a command line, and any that writes it comes to that invocation
where no variable names a backend. Where one does, the option goes before it. -/
theorem invocation_writes (i : Invocation) :
    (∃ words, Writes i words) ∧ ∀ words, Writes i words →
      (∀ env : Environment, env.get? backendVariable = none → invocation env words = .ok i) ∧
        (i.backend.isSome → ∀ (env : Environment) (v : String),
          env.get? backendVariable = some v → (Backend.ofOption? true v).isSome →
          invocation env words = .ok i) := by
  refine ⟨exists_writes i, ?_⟩
  intro words h
  have hparse := parse_writes h
  refine ⟨fun env hunset => ?_, fun hbackend env v hset hv => ?_⟩
  · rw [invocation, hunset, hparse]
  · have hi : { i with backend := i.backend <|> Backend.ofOption? true v } = i := by
      obtain ⟨verbose, backend, command⟩ := i
      obtain ⟨b, rfl⟩ := Option.isSome_iff_exists.1 hbackend
      rfl
    rw [invocation, hset, parse_some hparse, all_tolerates, hv, Bool.true_or, checked, if_pos rfl,
      hi]

/-- The option for the backend after the name, texts that are empty or look like an option, and a
negative id. -/
theorem invocation_writes_update :
    let i : Invocation := {
      verbose := true
      backend := some .sql
      command := .entries (.update (-1) ⟨some "", some "--code=x"⟩) }
    let words := ["--verbose", "examples", "update", "--example=--code=x", "--backend=RAW",
      "--code=", "--", "-1"]
    Writes i words ∧ invocation [] words = .ok i ∧
      invocation [(backendVariable, "orm")] words = .ok i := by
  intro i words
  have hglobals : ([(.verbose, .on)] ++ [] ++ [(.backend, .backend .sql)] : Values).Perm
      i.globals := .refl _
  have hown : ([(.text, .text "--code=x"), (.backend, .backend .sql), (.code, .text "")] :
      Values).Perm ([(.backend, .backend .sql)] ++ i.command.options) := by
    decide +kernel
  have hraw : Backend.ofOption? true "RAW" = some .sql := by
    have hlower : "RAW".toLower = "raw" := by
      apply String.toList_injective
      change (String.map Char.toLower "RAW").toList = _
      rw [String.toList_map]
      rfl
    rw [Backend.ofOption?_eq, hlower]
    decide
  have hafter := List.Forall₂.cons (Gives.text (k := .text) (by decide) "--code=x")
    (.cons (Gives.backend hraw) (.cons (Gives.text (k := .code) (by decide) "") .nil))
  have hwrites : Writes i words := .action rfl hglobals hown (.cons .verbose .nil) .nil hafter
  obtain ⟨hunset, hset⟩ := (invocation_writes i).2 words hwrites
  exact ⟨hwrites, hunset [] rfl, hset rfl _ "orm" (by decide +kernel) (by decide +kernel)⟩

end Program

end Catalog
