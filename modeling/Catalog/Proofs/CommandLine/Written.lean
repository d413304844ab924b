import Catalog.Proofs.CommandLine.Word
import Catalog.Proofs.Settings.Backend

namespace Catalog.CommandLine

namespace Values

def ofText (k : Key) (s? : Option String) : Values :=
  s?.toList.map fun s => (k, .text s)

def ofFilter (f : Filter) : Values :=
  ofText .search f.search ++ ofText .limit f.limit ++ ofText .offset f.offset

def ofId (n? : Option Int64) : Values :=
  n?.toList.map fun n => (.id, .id n)

end Values

namespace Command

def path : Command → List String
  | .migrate .up => ["migrate", "up"]
  | .migrate .down => ["migrate", "down"]
  | .migrate .status => ["migrate", "status"]
  | .migrate .fresh => ["migrate", "fresh"]
  | .entries (.list _) => ["examples", "list"]
  | .entries (.get _) => ["examples", "get"]
  | .entries (.create _) => ["examples", "create"]
  | .entries (.update ..) => ["examples", "update"]
  | .entries (.delete _) => ["examples", "delete"]
  | .entries (.restore _) => ["examples", "restore"]
  | .sql _ => ["sql"]

def options : Command → Values
  | .entries (.list f) | .sql f => .ofFilter f
  | .entries (.create d) => [(.code, .text d.code), (.text, .text d.text)]
  | .entries (.update _ c) => .ofText .code c.code ++ .ofText .text c.text
  | _ => []

def id? : Command → Option Int64
  | .entries (.get n) | .entries (.update n _) | .entries (.delete n) | .entries (.restore n) =>
    some n
  | _ => none

/-- The words at the end of a command: its id, which may be negative, where no option is looked
for. -/
def ending (c : Command) : List String :=
  match c.id? with
  | some n => ["--", Decimal.ofInt64 n]
  | none => []

end Command

/-- The options of an invocation that hold for all commands. -/
def Invocation.globals (i : Invocation) : Values :=
  (if i.verbose then [(.verbose, .on)] else []) ++
    i.backend.toList.map fun b => (.backend, .backend b)

def Invocation.values (i : Invocation) : Values :=
  i.globals ++ i.command.options ++ .ofId i.command.id?

/-- Words that write an invocation. The options of the command stand after its name in any order,
and those for all commands there, before the command or after the first word of its name. -/
inductive Writes (i : Invocation) : List String → Prop where
  | command {name : String} {before g own : Values} {words words' : List String}
      (hpath : i.command.path = [name])
      (hglobals : (before ++ g).Perm i.globals)
      (hown : own.Perm (g ++ i.command.options))
      (hbefore : List.Forall₂ Gives before words)
      (hafter : List.Forall₂ Gives own words') :
      Writes i (words ++ name :: words' ++ i.command.ending)
  | action {group name : String} {before between g own : Values}
      {words words' words'' : List String}
      (hpath : i.command.path = [group, name])
      (hglobals : (before ++ between ++ g).Perm i.globals)
      (hown : own.Perm (g ++ i.command.options))
      (hbefore : List.Forall₂ Gives before words)
      (hbetween : List.Forall₂ Gives between words')
      (hafter : List.Forall₂ Gives own words'') :
      Writes i (words ++ group :: words' ++ name :: words'' ++ i.command.ending)

namespace Values

variable {vs vs' : Values}

theorem keys_ofText (k : Key) (s? : Option String) :
    ((ofText k s?).map Prod.fst).Sublist [k] := by
  cases s? with
  | none => exact List.nil_sublist _
  | some s => exact List.Sublist.refl _

theorem keys_ofId (n? : Option Int64) : ((ofId n?).map Prod.fst).Sublist [.id] := by
  cases n? with
  | none => exact List.nil_sublist _
  | some n => exact List.Sublist.refl _

theorem keys_ofFilter (f : Filter) : ((ofFilter f).map Prod.fst).Sublist filterKeys := by
  rw [ofFilter, List.map_append, List.map_append]
  exact ((keys_ofText _ _).append (keys_ofText _ _)).append (keys_ofText _ _)

theorem findSome?_perm {α : Type} {f : Key × Value → Option α} {k : Key}
    (hf : ∀ v ∈ vs, (f v).isSome → v.1 = k) (hnodup : (vs.map Prod.fst).Nodup)
    (h : vs.Perm vs') : vs.findSome? f = vs'.findSome? f := by
  induction h with
  | nil => rfl
  | cons v _ ih =>
    obtain ⟨_, hf⟩ := List.forall_mem_cons.1 hf
    rw [List.findSome?_cons, List.findSome?_cons, ih hf (List.nodup_cons.1 hnodup).2]
  | swap v w vs =>
    obtain ⟨hfw, hf⟩ := List.forall_mem_cons.1 hf
    have hfv := hf v List.mem_cons_self
    simp only [List.findSome?_cons]
    cases hv : f v with
    | none => rfl
    | some a =>
      cases hw : f w with
      | none => rfl
      | some b =>
        have hkeys : w.1 = v.1 :=
          (hfw (Option.isSome_of_eq_some hw)).trans (hfv (Option.isSome_of_eq_some hv)).symm
        simp [hkeys] at hnodup
  | trans h _ ih ih' =>
    rw [ih hf hnodup, ih' (fun v hv => hf v (h.mem_iff.2 hv))
      ((h.map Prod.fst).nodup_iff.1 hnodup)]

theorem text?_perm (k : Key) (hnodup : (vs.map Prod.fst).Nodup) (h : vs.Perm vs') :
    vs.text? k = vs'.text? k := by
  refine findSome?_perm (k := k) (fun v _ hv => ?_) hnodup h
  by_contra hne
  rw [if_neg hne] at hv
  cases hv

@[simp] theorem text?_append (vs vs' : Values) (k : Key) :
    (vs ++ vs').text? k = (vs.text? k).or (vs'.text? k) :=
  List.findSome?_append

@[simp] theorem backend?_append (vs vs' : Values) :
    (vs ++ vs').backend? = vs.backend?.or vs'.backend? :=
  List.findSome?_append

@[simp] theorem id?_append (vs vs' : Values) : (vs ++ vs').id? = vs.id?.or vs'.id? :=
  List.findSome?_append

@[simp] theorem has_append (vs vs' : Values) (k : Key) :
    (vs ++ vs').has k = (vs.has k || vs'.has k) :=
  List.any_append

@[simp] theorem text?_ofText (k k' : Key) (s? : Option String) :
    (ofText k s?).text? k' = if k = k' then s? else none := by
  cases s? with
  | none => exact (ite_self none).symm
  | some s => by_cases h : k = k' <;> simp [ofText, text?, h]

@[simp] theorem id?_ofId (n? : Option Int64) : (ofId n?).id? = n? := by
  cases n? <;> rfl

@[simp] theorem text?_ofId (n? : Option Int64) (k : Key) : (ofId n?).text? k = none := by
  cases n? with
  | none => rfl
  | some n => simp [ofId, text?]

def AreTexts (vs : Values) : Prop :=
  ∀ v ∈ vs, v.1 ∈ textKeys ∧ ∃ s, v.2 = .text s

theorem AreTexts.backend? (h : vs.AreTexts) : vs.backend? = none := by
  refine List.findSome?_eq_none_iff.2 fun v hv => ?_
  obtain ⟨_, s, hs⟩ := h v hv
  rw [hs]

theorem AreTexts.has_verbose (h : vs.AreTexts) : vs.has .verbose = false := by
  refine List.any_eq_false.2 fun v hv hkey => ?_
  have hmem := (h v hv).1
  rw [beq_iff_eq.1 hkey] at hmem
  cases List.mem_cons.1 hmem with
  | inl h => cases h
  | inr h => simp at h

theorem areTexts_ofText {k : Key} (hk : k ∈ textKeys) (s? : Option String) :
    (ofText k s?).AreTexts := by
  intro v hv
  obtain ⟨s, _, rfl⟩ := List.mem_map.1 hv
  exact ⟨hk, s, rfl⟩

theorem AreTexts.append (h : vs.AreTexts) (h' : vs'.AreTexts) : (vs ++ vs').AreTexts :=
  fun v hv => (List.mem_append.1 hv).elim (h v) (h' v)

theorem areTexts_ofFilter (f : Filter) : (ofFilter f).AreTexts :=
  ((areTexts_ofText (by decide) _).append (areTexts_ofText (by decide) _)).append
    (areTexts_ofText (by decide) _)

end Values

theorem Command.areTexts_options (c : Command) : c.options.AreTexts := by
  have hdraft (d : Draft) : Values.AreTexts [(.code, .text d.code), (.text, .text d.text)] :=
    (Values.areTexts_ofText (by decide) (some d.code)).append
      (Values.areTexts_ofText (by decide) (some d.text))
  have hnil : Values.AreTexts [] := List.forall_mem_nil _
  cases c with
  | migrate a => exact hnil
  | sql f => exact Values.areTexts_ofFilter f
  | entries call =>
    cases call with
    | list f => exact Values.areTexts_ofFilter f
    | create d => exact hdraft d
    | update n c =>
      exact (Values.areTexts_ofText (by decide) _).append (Values.areTexts_ofText (by decide) _)
    | get n | delete n | restore n => exact hnil

theorem Command.keys_options (c : Command) :
    (c.options.map Prod.fst).Sublist textKeys := by
  have hfilter (f : Filter) : ((Values.ofFilter f).map Prod.fst).Sublist textKeys :=
    (Values.keys_ofFilter f).trans (by decide)
  cases c with
  | migrate a => exact List.nil_sublist _
  | sql f => exact hfilter f
  | entries call =>
    cases call with
    | list f => exact hfilter f
    | create d => exact .cons _ (.cons _ (.cons _ (.refl _)))
    | update n c =>
      rw [Command.options, List.map_append]
      exact ((Values.keys_ofText _ _).append (Values.keys_ofText _ _)).trans (by decide)
    | get n | delete n | restore n => exact List.nil_sublist _

namespace Invocation

variable (i : Invocation)

theorem keys_globals : (i.globals.map Prod.fst).Sublist [.verbose, .backend] := by
  obtain ⟨verbose, backend, command⟩ := i
  cases verbose <;> cases backend <;> simp [globals]

theorem keys_values_nodup : (i.values.map Prod.fst).Nodup := by
  have hkeys : (i.values.map Prod.fst).Sublist ([.verbose, .backend] ++ textKeys ++ [.id]) := by
    rw [values, List.map_append, List.map_append]
    exact (i.keys_globals.append i.command.keys_options).append (Values.keys_ofId _)
  exact hkeys.nodup (by decide)

theorem mem_globals {v : Key × Value} (h : v ∈ i.globals) :
    v = (.verbose, .on) ∨ ∃ b, v = (.backend, .backend b) := by
  rcases List.mem_append.1 h with hverbose | hbackend
  · split at hverbose
    · exact .inl (List.mem_singleton.1 hverbose)
    · cases hverbose
  · obtain ⟨b, _, rfl⟩ := List.mem_map.1 hbackend
    exact .inr ⟨b, rfl⟩

theorem key_of_backend {k : Key} {b : Backend} (h : (k, .backend b) ∈ i.values) : k = .backend := by
  rw [values, List.mem_append, List.mem_append] at h
  rcases h with (hglobal | htext) | hid
  · rcases i.mem_globals hglobal with h | ⟨_, h⟩ <;> cases h
    rfl
  · obtain ⟨_, s, hs⟩ := i.command.areTexts_options _ htext
    cases hs
  · obtain ⟨n, _, hn⟩ := List.mem_map.1 hid
    cases hn

theorem backend?_values : i.values.backend? = i.backend := by
  have hglobals : i.globals.backend? = i.backend := by
    obtain ⟨verbose, backend, command⟩ := i
    cases verbose <;> cases backend <;> rfl
  have hid : (Values.ofId i.command.id?).backend? = none := by
    cases i.command.id? <;> rfl
  simp [values, hglobals, hid, i.command.areTexts_options.backend?]

theorem has_verbose_values : i.values.has .verbose = i.verbose := by
  have hglobals : i.globals.has .verbose = i.verbose := by
    obtain ⟨verbose, backend, command⟩ := i
    cases verbose <;> cases backend <;> rfl
  have hid : (Values.ofId i.command.id?).has .verbose = false := by
    cases i.command.id? <;> rfl
  simp [values, hglobals, hid, i.command.areTexts_options.has_verbose]

end Invocation

theorem findSome?_flatten {α β : Type} (f : α → Option β) (ls : List (List α)) :
    ls.flatten.findSome? f = ls.findSome? (·.findSome? f) := by
  induction ls with
  | nil => rfl
  | cons l ls ih =>
    rw [List.flatten_cons, List.findSome?_append, List.findSome?_cons, ih]
    cases l.findSome? f <;> rfl

theorem State.invocation_of_perm {i : Invocation} {levels : List Values}
    (h : levels.flatten.Perm i.values) : invocation none i.command levels = i := by
  have hverbose : (levels.any fun vs => vs.has .verbose) = i.verbose := by
    rw [← i.has_verbose_values, Values.has, ← h.any_eq, List.any_flatten]
    rfl
  have hbackend : levels.findSome? Values.backend? = i.backend := by
    have hkeys : (levels.flatten.map Prod.fst).Nodup :=
      ((h.map Prod.fst).nodup_iff).2 i.keys_values_nodup
    rw [← i.backend?_values]
    refine (findSome?_flatten _ levels).symm.trans
      (Values.findSome?_perm (k := .backend) (fun v hv hsome => ?_) hkeys h)
    obtain ⟨k, value⟩ := v
    cases value with
    | backend b => exact i.key_of_backend (h.mem_iff.1 hv)
    | on | text s | id n => cases hsome
  rw [invocation, hverbose, hbackend]
  simp

theorem nodup_of_globals {i : Invocation} {vs rest : Values} (h : (vs ++ rest).Perm i.globals) :
    (vs.map Prod.fst).Nodup := by
  have hall : ((vs ++ rest).map Prod.fst).Nodup :=
    ((h.map Prod.fst).nodup_iff).2 (i.keys_globals.nodup (by decide))
  exact ((List.sublist_append_left vs rest).map Prod.fst).nodup hall

theorem Values.text?_eq_none {vs : Values} (h : ∀ v ∈ vs, ∀ s, v.2 ≠ .text s) (k : Key) :
    vs.text? k = none := by
  refine List.findSome?_eq_none_iff.2 fun v hv => ?_
  obtain ⟨k', value⟩ := v
  cases value with
  | text s => exact absurd rfl (h _ hv s)
  | on | backend b | id n => exact ite_self none

theorem lookups_of_perm {i : Invocation} {own g : Values} (hg : ∀ v ∈ g, v ∈ i.globals)
    (hown : own.Perm (g ++ i.command.options)) (hnodup : (own.map Prod.fst).Nodup) :
    own.has .id = false ∧ own.id? = none ∧ ∀ k, own.text? k = i.command.options.text? k := by
  have hmem : ∀ v ∈ own, v ∈ i.globals ∨ v ∈ i.command.options := fun v hv =>
    (List.mem_append.1 (hown.subset hv)).imp_left (hg v)
  have hnone : ∀ v ∈ own, v.1 ≠ .id ∧ ∀ n, v.2 ≠ .id n := by
    intro v hv
    rcases hmem v hv with hv | hv
    · rcases i.mem_globals hv with rfl | ⟨b, rfl⟩ <;> exact ⟨by rintro ⟨⟩, by rintro n ⟨⟩⟩
    · obtain ⟨hkey, s, hs⟩ := i.command.areTexts_options v hv
      refine ⟨?_, fun n => by rw [hs]; rintro ⟨⟩⟩
      rintro h
      rw [h] at hkey
      revert hkey
      decide
  have htext (k : Key) : g.text? k = none := by
    refine Values.text?_eq_none (fun v hv s => ?_) k
    rcases i.mem_globals (hg v hv) with rfl | ⟨b, rfl⟩ <;> rintro ⟨⟩
  refine ⟨?_, ?_, fun k => ?_⟩
  · exact List.any_eq_false.2 fun v hv hkey => (hnone v hv).1 (beq_iff_eq.1 hkey)
  · refine List.findSome?_eq_none_iff.2 fun v hv => ?_
    obtain ⟨k, value⟩ := v
    cases value with
    | id n => exact absurd rfl ((hnone _ hv).2 n)
    | on | text s | backend b => rfl
  · rw [Values.text?_perm k hnodup hown, Values.text?_append, htext, Option.none_or]

theorem nodup_own {i : Invocation} {outer g own : Values} (hglobals : (outer ++ g).Perm i.globals)
    (hown : own.Perm (g ++ i.command.options)) : (own.map Prod.fst).Nodup := by
  have hsub : (g ++ i.command.options).Sublist
      (outer ++ g ++ i.command.options ++ Values.ofId i.command.id?) := by
    rw [List.append_assoc outer, List.append_assoc outer]
    exact (List.sublist_append_left _ _).trans (List.sublist_append_right _ _)
  have hall : (outer ++ g ++ i.command.options ++ Values.ofId i.command.id?).Perm i.values :=
    (hglobals.append_right _).append_right _
  have hnodup := ((hall.map Prod.fst).nodup_iff).2 i.keys_values_nodup
  exact ((hown.map Prod.fst).nodup_iff).2 ((hsub.map Prod.fst).nodup hnodup)

theorem exists_gives {vs : Values} (h : ∀ v ∈ vs, ∃ word, Gives v word) :
    ∃ words, List.Forall₂ Gives vs words := by
  induction vs with
  | nil => exact ⟨[], .nil⟩
  | cons v vs ih =>
    obtain ⟨hv, hvs⟩ := List.forall_mem_cons.1 h
    obtain ⟨word, hword⟩ := hv
    obtain ⟨words, hwords⟩ := ih hvs
    exact ⟨word :: words, .cons hword hwords⟩

theorem exists_writes (i : Invocation) : ∃ words, Writes i words := by
  have hgives : ∀ v ∈ i.globals ++ i.command.options, ∃ word, Gives v word := by
    intro v hv
    rcases List.mem_append.1 hv with hv | hv
    · rcases i.mem_globals hv with rfl | ⟨b, rfl⟩
      · exact ⟨_, .verbose⟩
      · exact ⟨_, .backend b.ofOption?_name⟩
    · obtain ⟨k, value⟩ := v
      obtain ⟨hk, s, rfl⟩ := i.command.areTexts_options _ hv
      exact ⟨_, .text hk s⟩
  obtain ⟨words, hwords⟩ := exists_gives hgives
  have hpath : (∃ name, i.command.path = [name]) ∨
      ∃ group name, i.command.path = [group, name] := by
    cases i.command with
    | migrate a => cases a <;> exact .inr ⟨_, _, rfl⟩
    | entries call => cases call <;> exact .inr ⟨_, _, rfl⟩
    | sql f => exact .inl ⟨_, rfl⟩
  rcases hpath with ⟨name, hpath⟩ | ⟨group, name, hpath⟩
  · have hglobals : (([] : Values) ++ i.globals).Perm i.globals := .refl _
    exact ⟨_, .command hpath hglobals (.refl _) .nil hwords⟩
  · have hglobals : (([] : Values) ++ [] ++ i.globals).Perm i.globals := .refl _
    exact ⟨_, .action hpath hglobals (.refl _) .nil .nil hwords⟩

end Catalog.CommandLine
