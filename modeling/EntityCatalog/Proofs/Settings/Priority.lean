import EntityCatalog.Command.Job
import EntityCatalog.Proofs.Settings.Variables

namespace EntityCatalog

namespace Environment

variable {env : Environment} {d : Document} {name area key : String}

-- The environment as a source.
def given? (env : Environment) : Source
  | [name] => (value? env ("entityctl_" ++ name)).map Value.text
  | [area, key] => member? env area key
  | _ => none

theorem isDeclared_path : IsDeclared ["path", "echo"] "path" := by
  constructor <;> decide

theorem isDeclared_echo : IsDeclared ["path", "echo"] "echo" := by
  constructor <;> decide

theorem isDeclared_usual : IsDeclared ["default_limit", "max_limit"] "default_limit" := by
  constructor <;> decide

theorem isDeclared_largest : IsDeclared ["default_limit", "max_limit"] "max_limit" := by
  constructor <;> decide

theorem get?_named {vars : List (String × String)} {n : String} :
    (named vars n).get? name =
      if name = n then (vars.lookup ("entityctl_" ++ n)).map Value.text else none := by
  unfold named
  cases vars.lookup ("entityctl_" ++ n)
  case none => simp [Document.get?]
  case some => rw [Document.get?_cons]; rfl

structure Gives (env : Environment) (store query : Option Value) (d : Document) : Prop where
  ofStore : section? env.folded "store" ["path", "echo"] = .ok store
  ofQuery : section? env.folded "query" ["default_limit", "max_limit"] = .ok query
  eq      : d = ["json_output", "quiet", "verbose", "log_json", "default_scope"].flatMap
      (named env.folded) ++ (store.map fun v => ("store", v)).toList ++
    (query.map fun v => ("query", v)).toList

theorem exists_gives (h : settings env = .ok d) : ∃ store query, env.Gives store query d := by
  unfold settings at h
  cases hs : section? env.folded "store" ["path", "echo"] <;>
    cases hq : section? env.folded "query" ["default_limit", "max_limit"] <;>
    simp only [hs, hq, bind, Except.bind, reduceCtorEq, Except.ok.injEq] at h
  case ok.ok store query => exact ⟨store, query, hs, hq, h.symm⟩

namespace Gives

variable {store query : Option Value} (h : env.Gives store query d)

include h

theorem nodup : d.keys.Nodup := by
  have hn (n : String) : (Document.keys (named env.folded n)).Sublist [n] := by
    unfold named
    split <;> simp [Document.keys]
  have ho (n : String) (o : Option Value) :
      (Document.keys (o.map fun v => (n, v)).toList).Sublist [n] := by
    cases o <;> simp [Document.keys]
  have hs : d.keys.Sublist (["json_output", "quiet", "verbose", "log_json", "default_scope"] ++
      ["store"] ++ ["query"]) := by
    have hv := (hn "json_output").append ((hn "quiet").append ((hn "verbose").append
      ((hn "log_json").append (hn "default_scope"))))
    rw [h.eq]
    simpa [Document.keys] using (hv.append (ho "store" store)).append (ho "query" query)
  exact hs.nodup (by decide)

theorem get?_eq : d.get? name =
    if name ∈ ["json_output", "quiet", "verbose", "log_json", "default_scope"] then
      (value? env ("entityctl_" ++ name)).map Value.text
    else if name = "store" then store else if name = "query" then query else none := by
  have ho {n : String} {o : Option Value} :
      Document.get? (o.map fun v => (n, v)).toList name = if name = n then o else none := by
    cases o
    case none => simp [Document.get?]
    case some => exact Document.get?_cons
  have ha {a b : Document} : Document.get? (a ++ b) name = (a.get? name).or (b.get? name) :=
    List.lookup_append
  rw [h.eq]
  simp only [List.flatMap_cons, List.flatMap_nil, ha, ho, get?_named, lookup_folded]
  by_cases hn : name ∈ ["json_output", "quiet", "verbose", "log_json", "default_scope"]
  case pos =>
    rw [if_pos hn]
    simp only [List.mem_cons, List.not_mem_nil, or_false] at hn
    rcases hn with rfl | rfl | rfl | rfl | rfl <;> simp [Document.get?]
  case neg =>
    rw [if_neg hn]
    simp only [List.mem_cons, List.not_mem_nil, or_false, not_or] at hn
    by_cases hs : name = "store"
    case pos => simp [hs, Document.get?]
    case neg => simp [hn, hs, Document.get?]

theorem at?_name (hn : name ∈ ["json_output", "quiet", "verbose", "log_json", "default_scope"]) :
    d.at? [name] = env.given? [name] := by
  rw [Document.at?_name, h.get?_eq, if_pos hn]
  rfl

end Gives

end Environment

namespace Settings

variable {files : FileTree} {env : Environment} {config : Option String} {root : Option Path}
  {given : Document} {s : Settings}

theorem read_of_load (h : load files env config root given = .ok s) :
    ∃ root set file, env.settings = .ok set ∧ files.configSettings s.configPath = .ok file ∧
      read root s.configPath ((given.over set).over file) = .ok s := by
  simp only [load, bind, Except.bind] at h
  split at h
  case h_1 => cases h
  case h_2 file hf =>
    split at h
    case h_1 => cases h
    case h_2 set hs =>
      have ⟨hc, _⟩ := from_read h
      rw [hc]
      exact ⟨_, set, file, hs, hf, h⟩

theorem chosen_member {α : Type} {read : Reads α} {usual a : α} {upper file : Document}
    {area key : String} {declared : List String} (hr : read.IsPlain)
    (hk : Environment.IsDeclared declared key) (hn : upper.keys.Nodup)
    (hs : Environment.section? env.folded area declared = .ok (upper.get? area))
    (ho : ∀ v, (upper.over file).get? area = some v → ∃ m, v = .object m)
    (h : chosen read usual [(upper.over file).at? [area, key]] = .ok a) :
    chosen read usual [none, env.given? [area, key], file.at? [area, key]] = .ok a := by
  have hv : ∀ v, upper.get? area = some v → ∃ m, v = .object m := by
    intro v hv
    have hg : (upper.over file).get? area = Value.merged (file.get? area) (some v) :=
      hv ▸ Document.get?_over hn
    cases hm : Value.merged (file.get? area) (some v)
    case none => cases hf : file.get? area <;> rw [hf] at hm <;> cases hm
    case some x =>
      have ⟨m, hx⟩ := ho x (hg.trans hm)
      exact Value.object_of_merged (hx ▸ hm)
  have ⟨hsec, hmem⟩ := Environment.section?_eq hk hs hv
  have hc := chosen_section_over hr hn hsec h
  rw [Document.at?_member upper] at hc
  rcases hmem with he | ⟨ms, he⟩
  case inl => rw [he] at hc; exact hc
  case inr => rw [he] at hc; exact absurd hc (hr ms a)

end Settings

namespace Command

def Words.flag? (w : Words) : Source
  | ["json_output"] => if w.has "--json" then some (.bool true) else none
  | ["quiet"] => if w.has "--quiet" then some (.bool true) else none
  | ["verbose"] => if w.has "--verbose" then some (.bool true) else none
  | ["log_json"] => if w.has "--log-json" then some (.bool true) else none
  | ["default_scope"] => (w.value? "--scope").map Value.text
  | _ => none

variable {world : World} {w : Words} {s : Settings}

theorem nodup_givenSettings : (givenSettings w).keys.Nodup := by
  unfold givenSettings
  split <;> simp [Document.keys]

theorem at?_givenSettings_scope :
    (givenSettings w).at? ["default_scope"] = w.flag? ["default_scope"] := by
  rw [Document.at?_name]
  unfold givenSettings Words.flag?
  cases w.value? "--scope" <;> rfl

theorem get?_givenSettings_section {area : String} (ha : area ∈ ["store", "query"]) :
    (givenSettings w).get? area = none := by
  unfold givenSettings
  rcases List.mem_pair.mp ha with rfl | rfl <;> cases w.value? "--scope" <;> rfl

-- What lies below a switch that is told is not asked for.
theorem eq_of_switch {given upper file : Document} {name : String} {a b : Bool}
    (hg : given.keys.Nodup) (hn : (given.over upper).keys.Nodup)
    (hb : given.get? name = some (.bool b))
    (h : Settings.chosen Reads.bool false
      [Document.at? ((given.over upper).over file) [name]] = .ok a) : a = b := by
  have hc := Settings.chosen_over Reads.isPlain_bool hg
    (Settings.chosen_over Reads.isPlain_bool hn h)
  rw [Document.at?_name given, hb] at hc
  exact (Except.ok.inj hc).symm

-- Each switch is told, so that nothing else is asked for it. Every other setting is from the first
-- source that has it.
theorem valuesAreFrom_of_loadSettings (h : loadSettings world w = .ok s) :
    ∃ file, world.files.configSettings s.configPath = .ok file ∧
      s.ValuesAreFrom [w.flag?, world.environment.given?, file.at?] ∧
      s.json = w.has "--json" ∧ s.quiet = w.has "--quiet" ∧ s.verbose = w.has "--verbose" ∧
      s.logJson = w.has "--log-json" := by
  unfold loadSettings at h
  split at h
  case h_2 => split at h <;> cases h
  case h_1 s' hl =>
    cases h
    have ⟨root, set, file, hset, hfile, hr⟩ := Settings.read_of_load hl
    have ⟨_, hs, hv, ho⟩ := Settings.from_read hr
    have ⟨store, query, hg⟩ := Environment.exists_gives hset
    have hgn := nodup_givenSettings (w := w)
    have hn : ((givenSettings w).over set).keys.Nodup := Document.nodup_keys_over hg.nodup
    have hget {area : String} (ha : area ∈ ["store", "query"]) :
        ((givenSettings w).over set).get? area = set.get? area := by
      rw [Document.get?_over hgn, get?_givenSettings_section ha, Value.merged_none]
    have hstore : ((givenSettings w).over set).get? "store" = store :=
      (hget (by simp)).trans hg.get?_eq
    have hquery : ((givenSettings w).over set).get? "query" = query :=
      (hget (by simp)).trans hg.get?_eq
    have hscope := Settings.chosen_over Reads.isPlain_text hgn
      (Settings.chosen_over Reads.isPlain_text hn hv.scope)
    rw [at?_givenSettings_scope, hg.at?_name (by simp)] at hscope
    refine ⟨file, hfile, ⟨hscope, ?_, ?_, ?_, ?_⟩, ?_, ?_, ?_, ?_⟩
    case refine_1 =>
      exact Settings.chosen_member Reads.isPlain_path Environment.isDeclared_path hn
        (hstore ▸ hg.ofStore) (ho "store" (by simp)) hv.path
    case refine_2 =>
      exact Settings.chosen_member Reads.isPlain_bool Environment.isDeclared_echo hn
        (hstore ▸ hg.ofStore) (ho "store" (by simp)) hv.echo
    case refine_3 =>
      exact Settings.chosen_member Reads.isPlain_atLeast Environment.isDeclared_usual hn
        (hquery ▸ hg.ofQuery) (ho "query" (by simp)) hv.usual
    case refine_4 =>
      exact Settings.chosen_member Reads.isPlain_atLeast Environment.isDeclared_largest hn
        (hquery ▸ hg.ofQuery) (ho "query" (by simp)) hv.largest
    case refine_5 => exact eq_of_switch hgn hn rfl hs.json
    case refine_6 => exact eq_of_switch hgn hn rfl hs.quiet
    case refine_7 => exact eq_of_switch hgn hn rfl hs.verbose
    case refine_8 => exact eq_of_switch hgn hn rfl hs.logJson

def layered : World where
  files :=
    { current := ⟨"/", ["work"]⟩
      texts := [(⟨"/", ["work", "entityctl.toml"]⟩,
        "default_scope = \"acme\"\n[store]\npath = \"a.db\"\n[query]\nmax_limit = 200\n")] }
  environment :=
    [("ENTITYCTL_QUERY__DEFAULT_LIMIT", "70"), ("ENTITYCTL_DEFAULT_SCOPE", "globex"),
     ("ENTITYCTL_STORE", "\x7b\"echo\": true\x7d")]

theorem valuesAreFrom_layered :
    let w : Words := { options := [("--quiet", ""), ("--scope", "initech")] }
    ∃ s file, loadSettings layered w = .ok s ∧
      layered.files.configSettings s.configPath = .ok file ∧
      s.ValuesAreFrom [w.flag?, layered.environment.given?, file.at?] ∧
      s.quiet = true ∧ s.verbose = false ∧
      (s.scope, s.store, s.limits) = ("initech", ⟨⟨"", ["a.db"]⟩, true⟩, ⟨70, 200⟩) := by
  intro w
  have hs : (loadSettings layered w).toOption.map (fun s => (s.scope, s.store, s.limits)) =
      some ("initech", ⟨⟨"", ["a.db"]⟩, true⟩, ⟨70, 200⟩) := by
    decide +kernel
  cases hl : loadSettings layered w
  case error e => rw [hl] at hs; cases hs
  case ok s =>
    have ⟨file, hf, hv, _, hq, hb, _⟩ := valuesAreFrom_of_loadSettings hl
    rw [hl] at hs
    exact ⟨s, file, rfl, hf, hv, hq, hb, Option.some.inj hs⟩

def switched : World where
  files := { current := ⟨"/", ["work"]⟩ }
  environment := [("ENTITYCTL_JSON_OUTPUT", "true")]

theorem not_switchesAreFrom_switched :
    ∃ s file, loadSettings switched {} = .ok s ∧
      switched.files.configSettings s.configPath = .ok file ∧
      ¬s.SwitchesAreFrom [Words.flag? {}, switched.environment.given?, file.at?] := by
  have hs : (loadSettings switched {}).toOption.map (fun s => (s.json, s.configPath)) =
      some (false, none) := by
    decide +kernel
  have hv : switched.environment.value? ("entityctl_" ++ "json_output") = some "true" := by
    decide +kernel
  have hg : switched.environment.given? ["json_output"] = some (.text "true") := by
    rw [Environment.given?, hv, Option.map_some]
  cases hl : loadSettings switched {}
  case error e => rw [hl] at hs; cases hs
  case ok s =>
    rw [hl] at hs
    obtain ⟨hj, hc⟩ := Prod.mk.inj (Option.some.inj hs)
    refine ⟨s, [], rfl, by rw [hc]; rfl, fun h => ?_⟩
    have hb := h.json
    simp only [List.map_cons, hg, hj] at hb
    cases hb

end Command

end EntityCatalog
