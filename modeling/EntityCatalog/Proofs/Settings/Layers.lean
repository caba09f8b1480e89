import EntityCatalog.Proofs.Value.Document
import EntityCatalog.Settings.Sources

namespace EntityCatalog

namespace Value

def merged (lower higher : Option Value) : Option Value :=
  match lower, higher with
  | some l, some h => some (Value.over l h)
  | none, h => h
  | l, none => l

@[simp]
theorem merged_none {lower : Option Value} : merged lower none = lower := by
  cases lower <;> rfl

@[simp]
theorem none_merged {higher : Option Value} : merged none higher = higher := rfl

-- Only objects let a part of what is below them through.
theorem over_eq_or (lower higher : Value) :
    Value.over lower higher = higher ∨
      ∃ ms bs, higher = .object ms ∧ lower = .object bs ∧
        Value.over lower higher = .object (membersOver bs ms) := by
  cases higher
  case object ms =>
    cases lower
    case object bs => exact .inr ⟨ms, bs, rfl, rfl, by rw [Value.over]⟩
    all_goals exact .inl (by rw [Value.over]; intros; contradiction)
  all_goals exact .inl (by rw [Value.over]; intros; contradiction)

theorem merged_text {lower : Option Value} {t : String} :
    merged lower (some (.text t)) = some (.text t) := by
  cases lower <;> simp [merged, Value.over]

theorem object_of_merged {lower : Option Value} {v : Value} {ms : List (String × Value)}
    (h : merged lower (some v) = some (.object ms)) : ∃ bs, v = .object bs := by
  cases lower
  case none => exact ⟨ms, Option.some.inj h⟩
  case some l =>
    rcases over_eq_or l v with he | ⟨bs, _, hv, _, _⟩
    case inl => exact ⟨ms, he.symm.trans (Option.some.inj h)⟩
    case inr => exact ⟨bs, hv⟩

theorem exists_merged_object (lower : Option Value) (ms : List (String × Value)) :
    ∃ bs, merged lower (some (.object ms)) = some (.object bs) := by
  cases lower
  case none => exact ⟨ms, rfl⟩
  case some l =>
    rcases over_eq_or l (.object ms) with he | ⟨_, _, _, _, he⟩ <;> exact ⟨_, congrArg some he⟩

end Value

namespace Document

variable {higher lower : Document} {key : String}

theorem nodup_keys_over (h : lower.keys.Nodup) : (higher.over lower).keys.Nodup := by
  induction higher generalizing lower
  case nil => simpa [Document.over, Value.membersOver] using h
  case cons m higher hi =>
    obtain ⟨n, v⟩ := m
    rw [Document.over, Value.membersOver]
    exact hi (nodup_keys_set h)

theorem get?_over (h : higher.keys.Nodup) :
    (higher.over lower).get? key = Value.merged (lower.get? key) (higher.get? key) := by
  induction higher generalizing lower
  case nil => simp [Document.over, Value.membersOver, get?]
  case cons m higher hi =>
    obtain ⟨n, v⟩ := m
    have ⟨hn, h⟩ := List.nodup_cons.mp h
    rw [Document.over, Value.membersOver]
    refine (hi h).trans ?_
    rw [get?_set, get?_cons]
    by_cases hk : key = n
    case neg => simp [hk]
    case pos =>
      subst hk
      have hc : Document.get? higher key = none := get?_eq_none_iff.mpr hn
      rw [hc]
      cases lower.get? key <;> simp [Value.merged]

theorem over_single {v x : Value} (hx : Value.merged (lower.get? key) (some v) = some x) :
    Document.over [(key, v)] lower = lower.set key x := by
  rw [Document.over, Value.membersOver, Value.membersOver]
  cases hl : lower.get? key <;> rw [hl] at hx <;> cases hx <;> rfl

end Document

def Value.at? (v : Value) : List String → Option Value
  | [] => some v
  | name :: names =>
    match v with
    | .object m => (Document.get? m name).bind fun w => w.at? names
    | _ => none

namespace Document

variable {higher lower : Document} {name key : String}

def at? (d : Document) (names : List String) : Option Value := (Value.object d).at? names

theorem at?_name (d : Document) : d.at? [name] = d.get? name := by
  simp [at?, Value.at?]

theorem at?_member (d : Document) : d.at? [name, key] = (d.get? name).bind (·.at? [key]) := rfl

def HasSection (d : Document) (name : String) : Prop :=
  ∀ v, d.get? name = some v → ∃ m : Document, v = .object m ∧ m.keys.Nodup

theorem at?_over (h : higher.keys.Nodup) :
    (higher.over lower).at? [name] = Value.merged (lower.at? [name]) (higher.at? [name]) := by
  simp only [at?_name, get?_over h]

theorem at?_section_over (h : higher.keys.Nodup) (hs : higher.HasSection name) :
    (higher.over lower).at? [name, key] =
      Value.merged (lower.at? [name, key]) (higher.at? [name, key]) := by
  simp only [at?_member, get?_over h]
  cases hh : higher.get? name
  case none => simp
  case some v =>
    have ⟨m, hv, hm⟩ := hs v hh
    subst hv
    cases hl : lower.get? name
    case none => simp
    case some w =>
      cases w
      case object b =>
        have ho : Value.over (.object b) (.object m) = .object (Document.over m b) := by
          rw [Value.over, Document.over]
        simp only [Value.merged, ho]
        exact at?_over hm
      all_goals simp [Value.merged, Value.over, Value.at?]

end Document

-- A source of settings tells what it has at a place.
abbrev Source := List String → Option Value

def Reads.IsPlain {α : Type} (read : Reads α) : Prop := ∀ ms a, read (.object ms) ≠ .ok a

theorem Reads.isPlain_bool : Reads.bool.IsPlain := nofun

theorem Reads.isPlain_text : Reads.text.IsPlain := nofun

theorem Reads.isPlain_path : Reads.path.IsPlain := nofun

theorem Reads.isPlain_atLeast {least : Int} : (Reads.atLeast least).IsPlain := nofun

namespace Settings

variable {α : Type} {read : Reads α} {usual a : α} {rest : List (Option Value)}

-- What is read of the first value that is there, or else the usual value.
def chosen (read : Reads α) (usual : α) (values : List (Option Value)) : Except Misread α :=
  match values.findSome? id with
  | some v => read v
  | none => .ok usual

-- What is merged of two values is read only if it is the higher one, or there is none.
theorem chosen_merged {lower higher : Option Value} (hr : read.IsPlain)
    (h : chosen read usual (Value.merged lower higher :: rest) = .ok a) :
    chosen read usual (higher :: lower :: rest) = .ok a := by
  cases lower <;> cases higher <;> try exact h
  case some.some l v =>
    rcases Value.over_eq_or l v with he | ⟨ms, bs, rfl, rfl, he⟩
    case inl => simpa [chosen, Value.merged, he] using h
    case inr =>
      simp only [chosen, Value.merged, he, List.findSome?_cons, id] at h
      exact absurd h (hr _ _)

variable {higher lower : Document} {name key : String}

theorem chosen_over (hr : read.IsPlain) (hh : higher.keys.Nodup)
    (h : chosen read usual (Document.at? (higher.over lower) [name] :: rest) = .ok a) :
    chosen read usual (higher.at? [name] :: lower.at? [name] :: rest) = .ok a := by
  rw [Document.at?_over hh] at h
  exact chosen_merged hr h

theorem chosen_section_over (hr : read.IsPlain) (hh : higher.keys.Nodup)
    (hs : higher.HasSection name)
    (h : chosen read usual (Document.at? (higher.over lower) [name, key] :: rest) = .ok a) :
    chosen read usual (higher.at? [name, key] :: lower.at? [name, key] :: rest) = .ok a := by
  rw [Document.at?_section_over hh hs] at h
  exact chosen_merged hr h

structure SwitchesAreFrom (s : Settings) (sources : List Source) : Prop where
  json    : chosen Reads.bool false (sources.map (· ["json_output"])) = .ok s.json
  quiet   : chosen Reads.bool false (sources.map (· ["quiet"])) = .ok s.quiet
  verbose : chosen Reads.bool false (sources.map (· ["verbose"])) = .ok s.verbose
  logJson : chosen Reads.bool false (sources.map (· ["log_json"])) = .ok s.logJson

structure ValuesAreFrom (s : Settings) (sources : List Source) : Prop where
  scope   : chosen Reads.text "default" (sources.map (· ["default_scope"])) = .ok s.scope
  path    : chosen Reads.path ({} : StoreSettings).path (sources.map (· ["store", "path"])) =
    .ok s.store.path
  echo    : chosen Reads.bool false (sources.map (· ["store", "echo"])) = .ok s.store.echo
  usual   : chosen (Reads.atLeast 1) ({} : PageLimits).usual
    (sources.map (· ["query", "default_limit"])) =
    .ok s.limits.usual
  largest : chosen (Reads.atLeast 1) ({} : PageLimits).largest
    (sources.map (· ["query", "max_limit"])) =
    .ok s.limits.largest

end Settings

theorem Checked.chosen_member {α : Type} {d : Document} {name : String} {read : Reads α} {usual : α}
    (h : (member d name read usual).problems = []) :
    Settings.chosen read usual [d.at? [name]] = .ok (member d name read usual).value := by
  rw [Document.at?_name]
  unfold member at h ⊢
  cases hd : d.get? name
  case none => simp [Settings.chosen]
  case some v =>
    simp only [hd] at h ⊢
    cases hr : read v
    case ok => simp [Settings.chosen, hr]
    case error => simp [hr] at h

section Section

variable {α β : Type} {d : Document} {name model key : String} {read : Document → Checked α}
  {usual : α}

theorem Checked.object_of_inside (h : (inside d name model read usual).problems = []) {v : Value}
    (hv : d.get? name = some v) : ∃ m, v = .object m := by
  unfold inside at h
  rw [hv] at h
  split at h
  case h_1 hn => cases hn
  case h_2 m hm => exact ⟨m, Option.some.inj hm⟩
  case h_3 => cases h

theorem Checked.chosen_inside {readMember : Reads β} (part : α → β)
    (hm : ∀ m, (read m).problems = [] →
      Settings.chosen readMember (part usual) [Document.at? m [key]] = .ok (part (read m).value))
    (h : (inside d name model read usual).problems = []) :
    Settings.chosen readMember (part usual) [d.at? [name, key]] =
      .ok (part (inside d name model read usual).value) := by
  unfold inside at h ⊢
  rw [Document.at?_member]
  cases hn : d.get? name
  case none => rfl
  case some v =>
    rw [hn] at h
    cases v
    case object m => exact hm m (List.map_eq_nil_iff.mp h)
    all_goals cases h

end Section

namespace Settings

variable {root : Path} {config : Option Path} {d : Document} {s : Settings}

theorem chosen_store
    (h : (Checked.inside d "store" "StoreConfig" StoreSettings.read {}).problems = []) :
    let store := (Checked.inside d "store" "StoreConfig" StoreSettings.read {}).value
    chosen Reads.path ({} : StoreSettings).path [d.at? ["store", "path"]] = .ok store.path ∧
      chosen Reads.bool false [d.at? ["store", "echo"]] = .ok store.echo := by
  refine ⟨Checked.chosen_inside StoreSettings.path (fun m hm => ?_) h,
    Checked.chosen_inside StoreSettings.echo (fun m hm => ?_) h⟩
  case refine_1 => exact Checked.chosen_member (List.append_eq_nil_iff.mp hm).1
  case refine_2 => exact Checked.chosen_member (List.append_eq_nil_iff.mp hm).2

theorem problems_limits {m : Document} (h : (PageLimits.read m).problems = []) :
    (Checked.member m "default_limit" (Reads.atLeast 1) ({} : PageLimits).usual).problems = [] ∧
      (Checked.member m "max_limit" (Reads.atLeast 1) ({} : PageLimits).largest).problems = [] := by
  unfold PageLimits.read at h
  dsimp only at h
  split at h
  case isTrue => cases h
  case isFalse => exact List.append_eq_nil_iff.mp h

theorem chosen_limits
    (h : (Checked.inside d "query" "QueryConfig" PageLimits.read {}).problems = []) :
    let limits := (Checked.inside d "query" "QueryConfig" PageLimits.read {}).value
    chosen (Reads.atLeast 1) ({} : PageLimits).usual [d.at? ["query", "default_limit"]] =
        .ok limits.usual ∧
      chosen (Reads.atLeast 1) ({} : PageLimits).largest [d.at? ["query", "max_limit"]] =
        .ok limits.largest := by
  refine ⟨Checked.chosen_inside PageLimits.usual (fun m hm => ?_) h,
    Checked.chosen_inside PageLimits.largest (fun m hm => ?_) h⟩
  case refine_1 => exact Checked.chosen_member (problems_limits hm).1
  case refine_2 => exact Checked.chosen_member (problems_limits hm).2

theorem from_read (h : read root config d = .ok s) :
    s.configPath = config ∧ s.SwitchesAreFrom [d.at?] ∧ s.ValuesAreFrom [d.at?] ∧
      ∀ name ∈ ["store", "query"], ∀ v, d.get? name = some v → ∃ m, v = .object m := by
  unfold read at h
  dsimp only at h
  split at h
  case isFalse => cases h
  case isTrue hp =>
    cases h
    simp only [List.isEmpty_iff, List.append_eq_nil_iff] at hp
    obtain ⟨⟨⟨⟨⟨⟨⟨hj, hq⟩, hv⟩, hl⟩, hs⟩, hstore⟩, hlimits⟩, _⟩ := hp
    have ⟨hpath, hecho⟩ := chosen_store hstore
    have ⟨husual, hlargest⟩ := chosen_limits hlimits
    refine ⟨rfl, ⟨Checked.chosen_member hj, Checked.chosen_member hq, Checked.chosen_member hv,
      Checked.chosen_member hl⟩, ⟨Checked.chosen_member hs, hpath, hecho, husual, hlargest⟩, ?_⟩
    intro name hn v hv
    rcases List.mem_pair.mp hn with rfl | rfl
    case inl => exact Checked.object_of_inside hstore hv
    case inr => exact Checked.object_of_inside hlimits hv

end Settings

end EntityCatalog
