import Mathlib.Data.List.Perm.Basic
import Neptunus.Config.Pipeline

/-!
  Neptunus.Pipeline.Build

  `pipeline.New` and `Pipeline.Build` (`pipeline/pipeline.go`): the plugin instances a
  pipeline configuration makes, line by line.

  A plugin factory is a parameter (`Registry`): for a type name it is registered or
  not, and made with a configuration, an alias and the pipeline id it succeeds or
  returns its error text. An instance is recorded by what made it.

  `configureInputs`, `configureOutputs` and each line of `configureProcessors` run one
  loop, `configurePlugins`, over the plugins of their sets; they differ in the words of
  their errors and in the default alias. `configureProcessors` ranges over every
  processor set once per line, and Go picks a map's iteration order afresh on every
  range: `order i index set` is the order line `i` visits set `index` in. Inputs and
  outputs range over each set once, so a set's list is its iteration order.

  The error text of the processors' filter failure says "output filters"; the model
  keeps it.
-/

set_option linter.dupNamespace false

namespace Neptunus.Pipeline

open Neptunus.Core

/-- A plugin made by a registered factory: its type name, its configuration and the
    alias it was made under (the logger's `name`). -/
structure Instance where
  plugin : String
  config : Config.Plugin
  name : String

/-- `inputSet`, `procSet` and `outputSet`: a plugin and its filters. The source keeps
    three copies of this type only because Go's generics cannot express one. -/
structure pluginSet where
  p : Instance
  f : List Instance

/-- A plugin factory: made from a configuration, an alias and the pipeline id, it
    returns `none` or its constructor's error text. -/
abbrev Factory := Config.Plugin → String → String → Option String

/-- `plugins.GetInput`, `GetProcessor`, `GetOutput`, `GetFilter`. -/
structure Registry where
  input : String → Option Factory
  processor : String → Option Factory
  output : String → Option Factory
  filter : String → Option Factory

/-- `configureFilters(filtersSet, parentName)`. -/
def configureFilters (reg : Registry) (pipeId parentName : String) :
    Config.PluginSet → Except String (List Instance)
  | [] => .ok []
  | (plugin, cfg) :: rest =>
    match reg.filter plugin with
    | none => .error ("unknown filter plugin in pipeline configuration: " ++ plugin)
    | some make =>
      let name := if 0 < cfg.alias.length then cfg.alias else parentName ++ "-" ++ plugin
      match make cfg name pipeId with
      | some err => .error (plugin ++ " filter configuration error: " ++ err)
      | none => (configureFilters reg pipeId parentName rest).map (⟨plugin, cfg, name⟩ :: ·)

/-! ## The plugin loop -/

/-- The plugins of plugin sets in the order the nested loops
    `for index, set := range sets { for plugin, cfg := range set { ... } }` visit them,
    each with its set's index. -/
def flatSets (sets : List (Nat × Config.PluginSet)) : List (Nat × String × Config.Plugin) :=
  sets.flatMap fun s => s.2.map fun pc => (s.1, pc.1, pc.2)

/-- The body of `configureInputs`, `configureOutputs` and of one line of
    `configureProcessors`: every plugin in turn is looked up, made under its alias and
    given its filters; the first failure ends the loop. `kind` and `filtersKind` are
    the words of the errors, `aliasOf index plugin cfg` the alias. -/
def configurePlugins (reg : Registry) (get : String → Option Factory)
    (kind filtersKind : String) (aliasOf : Nat → String → Config.Plugin → String)
    (pipeId : String) : List (Nat × String × Config.Plugin) → Except String (List pluginSet)
  | [] => .ok []
  | (index, plugin, cfg) :: rest =>
    match get plugin with
    | none => .error ("unknown " ++ kind ++ " plugin in pipeline configuration: " ++ plugin)
    | some make =>
      let name := aliasOf index plugin cfg
      match make cfg name pipeId with
      | some err => .error (plugin ++ " " ++ kind ++ " configuration error: " ++ err)
      | none =>
        match configureFilters reg pipeId name cfg.filters with
        | .error err =>
          .error (plugin ++ " " ++ filtersKind ++ " filters configuration error: " ++ err)
        | .ok filters =>
          (configurePlugins reg get kind filtersKind aliasOf pipeId rest).map
            (⟨⟨plugin, cfg, name⟩, filters⟩ :: ·)

/-- What a made plugin set was made from: type name and configuration. -/
def pluginSet.entry (s : pluginSet) : String × Config.Plugin := (s.p.plugin, s.p.config)

/-- The loop makes one plugin set per plugin, in the order it visits them. -/
theorem configurePlugins_entries {reg : Registry} {get : String → Option Factory}
    {kind filtersKind : String} {aliasOf : Nat → String → Config.Plugin → String}
    {pipeId : String} {l : List (Nat × String × Config.Plugin)} {r : List pluginSet}
    (h : configurePlugins reg get kind filtersKind aliasOf pipeId l = .ok r) :
    r.map pluginSet.entry = l.map (·.2) := by
  induction l generalizing r with
  | nil => cases h; rfl
  | cons x rest ih =>
    obtain ⟨index, plugin, cfg⟩ := x
    simp only [configurePlugins] at h
    split at h
    · cases h
    · split at h
      · cases h
      · split at h
        · cases h
        · obtain ⟨r', hr', rfl⟩ := map_eq_ok.mp h
          simp [ih hr', pluginSet.entry]

/-! ## The loop over lines -/

/-- The loop `for i := 0; i < n; i++` from `i`, over a body that may fail: the body's
    results in order, or its first error. -/
def forLines {β : Type} (body : Nat → Except String β) (i : Nat) : Nat → Except String (List β)
  | 0 => .ok []
  | n + 1 => do
    let b ← body i
    let bs ← forLines body (i + 1) n
    pure (b :: bs)

/-- A finished loop ran its body `n` times, the `k`-th time with result `r[k]`. -/
theorem forLines_ok {β : Type} {body : Nat → Except String β} {i n : Nat} {r : List β}
    (h : forLines body i n = .ok r) :
    r.length = n ∧ ∀ k (hk : k < r.length), body (i + k) = .ok r[k] := by
  induction n generalizing i r with
  | zero => cases h; simp
  | succ n ih =>
    obtain ⟨b, hb, bs, hbs, h⟩ := by simpa only [forLines, bind_eq_ok] using h
    cases h
    obtain ⟨hlen, hget⟩ := ih hbs
    refine ⟨by simp [hlen], fun k hk => ?_⟩
    cases k with
    | zero => simpa using hb
    | succ k =>
      have := hget k (by simpa using hk)
      rwa [show i + 1 + k = i + (k + 1) by omega] at this

/-- A loop whose body succeeds `n` times runs to the end. -/
theorem forLines_of_ok {β : Type} {body : Nat → Except String β} {f : Nat → β} {i n : Nat}
    (h : ∀ k, i ≤ k → k < i + n → body k = .ok (f k)) :
    forLines body i n = .ok ((List.range' i n).map f) := by
  induction n generalizing i with
  | zero => rfl
  | succ n ih =>
    rw [forLines, h i (Nat.le_refl i) (by omega),
      ih fun k hk hk' => h k (by omega) (by omega)]
    rfl

/-! ## Inputs, processors, outputs -/

/-- The alias of input or output `plugin` of set `index`: `alias`, or `"<plugin>-<index>"`. -/
def setAlias (index : Nat) (plugin : String) (cfg : Config.Plugin) : String :=
  if 0 < cfg.alias.length then cfg.alias else plugin ++ "-" ++ toString index

/-- The alias of processor `plugin` of set `index` in line `i`: `"<alias>-<i>"`, or
    `"<plugin>-<index>-<i>"`. -/
def lineAlias (i index : Nat) (plugin : String) (cfg : Config.Plugin) : String :=
  if 0 < cfg.alias.length then cfg.alias ++ "-" ++ toString i
  else plugin ++ "-" ++ toString index ++ "-" ++ toString i

/-- `configureInputs`. -/
def configureInputs (reg : Registry) (cfg : Config.Pipeline) : Except String (List pluginSet) :=
  if cfg.inputs.length = 0 then .error "at leats one input required"
  else configurePlugins reg reg.input "input" "input" setAlias cfg.settings.id
    (flatSets cfg.inputs.enum)

/-- `configureOutputs`. -/
def configureOutputs (reg : Registry) (cfg : Config.Pipeline) : Except String (List pluginSet) :=
  if cfg.outputs.length = 0 then .error "at least one output required"
  else configurePlugins reg reg.output "output" "output" setAlias cfg.settings.id
    (flatSets cfg.outputs.enum)

/-- The processor sets as line `i` visits them. -/
def lineSets (order : Nat → Nat → Config.PluginSet → Config.PluginSet) (cfg : Config.Pipeline)
    (i : Nat) : List (Nat × Config.PluginSet) :=
  cfg.processors.enum.map fun s => (s.1, order i s.1 s.2)

/-- `configureProcessors`: `Lines` copies of the processor stack, line `i` made in the
    order its ranges visit the sets. -/
def configureProcessors (reg : Registry) (order : Nat → Nat → Config.PluginSet → Config.PluginSet)
    (cfg : Config.Pipeline) : Except String (List (List pluginSet)) :=
  forLines (fun i => configurePlugins reg reg.processor "processor" "output" (lineAlias i)
    cfg.settings.id (flatSets (lineSets order cfg i))) 0 cfg.settings.lines.toNat

/-! ## The pipeline -/

/-- `pipeline.state`. -/
inductive State where
  | created | starting | stopping | running | stopped
  deriving DecidableEq, Repr

/-- `pipeline.Pipeline`, without its logger. -/
structure Pipeline where
  config : Config.Pipeline
  state : State
  outs : List pluginSet
  procs : List (List pluginSet)
  ins : List pluginSet

/-- `maxAlloc` of the Go runtime on 64-bit platforms: the most bytes `makeslice` admits. -/
def maxAlloc : Int := 2 ^ 48

/-- `pipeline.New`. `make([][]procSet, 0, config.Settings.Lines)` panics when the capacity
    is negative or when its slice headers, 24 bytes each, would take more than
    `maxAlloc`. An allocation within that bound that the machine cannot hold is not
    modelled. -/
def new (config : Config.Pipeline) : Except String Pipeline :=
  if config.settings.lines < 0 ∨ maxAlloc < 24 * config.settings.lines then
    .error "runtime error: makeslice: cap out of range"
  else .ok { config, state := .created, outs := [], procs := [], ins := [] }

example : (new ⟨⟨"main", 2 ^ 47, true, 10⟩, [], [], []⟩).toBool = false := rfl

/-- `Pipeline.Build`: inputs, processors and outputs, each appended to the pipeline's
    slices; the first error is returned. -/
def Pipeline.build (reg : Registry) (order : Nat → Nat → Config.PluginSet → Config.PluginSet)
    (p : Pipeline) : Except String Pipeline := do
  let ins ← configureInputs reg p.config
  let procs ← configureProcessors reg order p.config
  let outs ← configureOutputs reg p.config
  pure { p with ins := p.ins ++ ins, procs := p.procs ++ procs, outs := p.outs ++ outs }

/-! ## What a build makes -/

/-- The stack line `i` applies: the configured processors, each set in the order line
    `i` visits it. -/
def lineStack (order : Nat → Nat → Config.PluginSet → Config.PluginSet) (cfg : Config.Pipeline)
    (i : Nat) : List (String × Config.Plugin) :=
  (lineSets order cfg i).flatMap Prod.snd

theorem flatSets_map_snd (sets : List (Nat × Config.PluginSet)) :
    (flatSets sets).map (·.2) = sets.flatMap Prod.snd := by
  induction sets with
  | nil => rfl
  | cons s rest ih => simp [flatSets, ← ih]

/-- `configureProcessors` makes `Lines` lines, line `i` from `lineStack order cfg i`. -/
theorem configureProcessors_ok {reg : Registry} {order : Nat → Nat → Config.PluginSet → Config.PluginSet}
    {cfg : Config.Pipeline} {procs : List (List pluginSet)}
    (h : configureProcessors reg order cfg = .ok procs) :
    procs.length = cfg.settings.lines.toNat ∧
      ∀ i (hi : i < procs.length), procs[i].map pluginSet.entry = lineStack order cfg i := by
  obtain ⟨hlen, hget⟩ := forLines_ok h
  refine ⟨hlen, fun i hi => ?_⟩
  rw [configurePlugins_entries (by simpa using hget i hi), flatSets_map_snd]
  rfl

theorem build_ok {reg : Registry} {order : Nat → Nat → Config.PluginSet → Config.PluginSet}
    {p p' : Pipeline} (h : p.build reg order = .ok p') :
    ∃ ins procs outs, configureInputs reg p.config = .ok ins ∧
      configureProcessors reg order p.config = .ok procs ∧
      configureOutputs reg p.config = .ok outs ∧
      p' = { p with ins := p.ins ++ ins, procs := p.procs ++ procs, outs := p.outs ++ outs } := by
  simp only [Pipeline.build, bind_eq_ok] at h
  obtain ⟨ins, hins, procs, hprocs, outs, houts, h⟩ := h
  exact ⟨ins, procs, outs, hins, hprocs, houts, (Except.ok.inj h).symm⟩

/-- A pipeline made by `New` and built has exactly `Lines` processor lines, line `i`
    applying `lineStack order cfg i`. -/
theorem new_build_procs {reg : Registry} {order : Nat → Nat → Config.PluginSet → Config.PluginSet}
    {cfg : Config.Pipeline} {p p' : Pipeline} (hnew : new cfg = .ok p)
    (h : p.build reg order = .ok p') :
    p'.config = cfg ∧ p'.procs.length = cfg.settings.lines.toNat ∧
      ∀ i (hi : i < p'.procs.length), p'.procs[i].map pluginSet.entry = lineStack order cfg i := by
  have hp : p = { config := cfg, state := .created, outs := [], procs := [], ins := [] } := by
    unfold new at hnew
    split at hnew
    · cases hnew
    · exact (Except.ok.inj hnew).symm
  subst hp
  obtain ⟨ins, procs, outs, -, hprocs, -, rfl⟩ := build_ok h
  simpa using configureProcessors_ok hprocs

/-- When every range visits a set in an order that permutes it, every line applies the
    configured processors, in some order. -/
theorem lineStack_perm {order : Nat → Nat → Config.PluginSet → Config.PluginSet}
    (hperm : ∀ i index set, (order i index set).Perm set) (cfg : Config.Pipeline) (i : Nat) :
    (lineStack order cfg i).Perm cfg.processors.flatten := by
  have hsame : cfg.processors.flatten = cfg.processors.enum.flatMap Prod.snd := by
    rw [List.flatMap, List.enum_map_snd]
  rw [hsame, lineStack, lineSets, List.flatMap_map]
  exact List.Perm.flatMap_left _ fun s _ => hperm i s.1 s.2

example : (lineStack (fun i _ set => if i = 1 then set.reverse else set)
      ⟨⟨"p", 2, true, 10⟩, [], [[("a", []), ("b", [])]], []⟩ 1).map Prod.fst = ["b", "a"] := by
  decide

/-! ## Close and Test -/

/-- `Pipeline.Close`: the instances it closes, in order; an input before its filters,
    a processor or an output after its filters. It returns `nil`. -/
def Pipeline.close (p : Pipeline) : List Instance :=
  p.ins.flatMap (fun set => set.p :: set.f) ++
    p.procs.flatMap (fun line => line.flatMap fun set => set.f ++ [set.p]) ++
    p.outs.flatMap (fun set => set.f ++ [set.p])

/-- `Pipeline.Test`: the steps of `Build`, whose instances it keeps, every error
    reported as one text. -/
def Pipeline.test (reg : Registry) (order : Nat → Nat → Config.PluginSet → Config.PluginSet)
    (p : Pipeline) : Except String Pipeline :=
  match p.build reg order with
  | .ok p' => .ok p'
  | .error _ => .error "pipeline test failed"

/-- Every instance a pipeline holds, set by set: the plugin, then its filters. -/
def Pipeline.instances (p : Pipeline) : List Instance :=
  (p.ins ++ p.procs.flatten ++ p.outs).flatMap fun set => set.p :: set.f

/-- `Close` closes every instance the pipeline holds exactly once. -/
theorem close_perm (p : Pipeline) : p.close.Perm p.instances := by
  have hset : ∀ set : pluginSet, (set.f ++ [set.p]).Perm (set.p :: set.f) :=
    fun set => List.perm_append_singleton _ _
  have hflat : ∀ (lines : List (List pluginSet)) (g : pluginSet → List Instance),
      lines.flatten.flatMap g = lines.flatMap fun line => line.flatMap g := by
    intro lines g
    induction lines with
    | nil => rfl
    | cons line rest ih => simp [List.flatMap_append, ih]
  simp only [Pipeline.close, Pipeline.instances, List.flatMap_append, hflat]
  refine ((List.Perm.refl _).append ?_).append ?_
  · exact List.Perm.flatMap_left _ fun line _ => List.Perm.flatMap_left _ fun set _ => hset set
  · exact List.Perm.flatMap_left _ fun set _ => hset set

/-- A `Build` after a successful `Test` configures every plugin a second time: the
    pipeline then holds each instance twice, and `Close` closes both. -/
theorem test_build {reg : Registry} {order : Nat → Nat → Config.PluginSet → Config.PluginSet}
    {p p1 p2 : Pipeline} (h1 : p.test reg order = .ok p1) (h2 : p1.build reg order = .ok p2) :
    ∃ ins procs outs, p2.ins = p.ins ++ ins ++ ins ∧ p2.procs = p.procs ++ procs ++ procs ∧
      p2.outs = p.outs ++ outs ++ outs := by
  have hb : p.build reg order = .ok p1 := by
    unfold Pipeline.test at h1
    split at h1 <;> simp_all
  obtain ⟨ins, procs, outs, hi, hp, ho, rfl⟩ := build_ok hb
  obtain ⟨ins', procs', outs', hi', hp', ho', rfl⟩ := build_ok h2
  simp only [hi, hp, ho, Except.ok.injEq] at hi' hp' ho'
  subst hi' hp' ho'
  exact ⟨ins, procs, outs, rfl, rfl, rfl⟩

/-! ## Settings a document can carry -/

/-- A document whose `lines` is negative is accepted with it, and `New` panics on it. -/
theorem unmarshalPipeline_negative_lines {dec : Config.Decoders} {data : List UInt8}
    {raw : Config.Pipeline} (hdec : dec.json data = .ok raw) (hneg : raw.settings.lines < 0) :
    ∃ cfg, Config.unmarshalPipeline dec data "json" = .ok cfg ∧
      cfg.settings.lines = raw.settings.lines ∧
      new cfg = .error "runtime error: makeslice: cap out of range" := by
  have hl : (Config.setPipelineDefaults raw).settings.lines = raw.settings.lines := by
    rw [(Config.setPipelineDefaults_settings raw).1, if_neg (by omega)]
  refine ⟨Config.setPipelineDefaults raw, by simp [Config.unmarshalPipeline, hdec, Except.map], hl, ?_⟩
  simp [new, hl, hneg]

/-- A json decoder that reads `"lines": -1` from every document. -/
def negativeLinesDecoders : Config.Decoders where
  toml _ := .error "toml"
  yaml _ := .error "yaml"
  json _ := .ok ⟨⟨"main", -1, true, 0⟩, [[("http", [])]], [], [[("log", [])]]⟩

theorem unmarshalPipeline_negative_lines_json :
    negativeLinesDecoders.json [] = .ok ⟨⟨"main", -1, true, 0⟩, [[("http", [])]], [], [[("log", [])]]⟩ ∧
      (-1 : Int) < 0 ∧
      ∃ cfg, Config.unmarshalPipeline negativeLinesDecoders [] "json" = .ok cfg ∧
        cfg.settings.lines = -1 ∧ new cfg = .error "runtime error: makeslice: cap out of range" :=
  ⟨rfl, by decide, @unmarshalPipeline_negative_lines negativeLinesDecoders []
    ⟨⟨"main", -1, true, 0⟩, [[("http", [])]], [], [[("log", [])]]⟩ rfl (by decide)⟩

end Neptunus.Pipeline
