import Mathlib.Algebra.BigOperators.Group.List
import Neptunus.Pipeline.Build

/-!
  Neptunus.Pipeline.Run

  The dataflow graph `Pipeline.Run` wires: the soft units it starts and the channels
  each reads and writes. A channel is named by the constructor that makes it
  (`NewDirectInputSoftUnit` makes input `i`'s out channel, and so on), so two units
  share a channel exactly when the source hands one's result to the other.

  `referenceRun` is the graph the specification's start sequence describes, written from
  its words with every unit and channel numbered by its position, not from `Run`'s
  helpers; `processorLine_eq` is the closed form of `Run`'s line recursion, and
  `run_eq_referenceRun` says the two agree whenever there is a processor, and
  `run_without_processors` says what `Run` wires when there is none: `len(p.procs)`
  counts lines, not processors, so a processors fusion still reads `S1` once per line
  and the broadcast reads its output instead of `S1`.
-/

set_option linter.dupNamespace false

namespace Neptunus.Pipeline

/-- A channel, named by the constructor that makes it. -/
inductive Chan where
  /-- The out channel of input `i`. -/
  | inputOut (i : Nat)
  /-- The out channel of the fusion unit called `name`. -/
  | fusionOut (name : String)
  /-- The out channel of processor `j` of line `line`. -/
  | procOut (line j : Nat)
  /-- The broadcast's `i`-th out channel. -/
  | bcastOut (i : Nat)
  deriving DecidableEq, Repr

/-- The soft units `Run` starts, with the channels they read and write. -/
inductive SoftUnit where
  | input (set : pluginSet) (out : Chan)
  | fusion (name : String) (ins : List Chan) (out : Chan)
  | processor (set : pluginSet) (input out : Chan)
  | broadcast (name : String) (input : Chan) (outs : List Chan)
  | output (set : pluginSet) (input : Chan)

/-- `S1`, the inputs fusion's out channel, and `S2`, the processors fusion's. -/
def s1 : Chan := .fusionOut "inputs-to-processors"
def s2 : Chan := .fusionOut "processors-to-broadcast"

/-- The input units in order, input `i` writing `inputOut i`. -/
def inputUnits (ins : List pluginSet) : List SoftUnit :=
  ins.enum.map fun s => .input s.2 (.inputOut s.1)

/-- `inputsOutChannels` for `n` inputs. -/
def inputsOut (n : Nat) : List Chan := (List.range n).map .inputOut

/-- `bcastChs` for `n` outputs. -/
def bcastOuts (n : Nat) : List Chan := (List.range n).map .bcastOut

/-- The output units in order, output `i` reading `bcastChs[i]`. -/
def outputUnits (outs : List pluginSet) : List SoftUnit :=
  outs.enum.map fun s => .output s.2 (.bcastOut s.1)

/-- Line `i` of processors from `procInput`: processor `j` reads what processor `j - 1`
    writes; the line's units and its last channel. -/
def processorLine (i : Nat) : Chan → Nat → List pluginSet → List SoftUnit × Chan
  | procInput, _, [] => ([], procInput)
  | procInput, j, s :: rest =>
    let line := processorLine i (.procOut i j) (j + 1) rest
    (.processor s procInput (.procOut i j) :: line.1, line.2)

/-- The processor stage: `Lines` lines from `S1` and the fusion of their last channels
    into `S2`; `p.procs[i]` panics past the end of `p.procs`. -/
def processorStage (p : Pipeline) : Except String (List SoftUnit × Chan) := do
  let lines ← forLines (fun i => match p.procs[i]? with
      | some line => .ok (processorLine i s1 0 line)
      | none => .error "runtime error: index out of range")
    0 p.config.settings.lines.toNat
  pure (lines.flatMap Prod.fst ++ [.fusion "processors-to-broadcast" (lines.map Prod.snd) s2], s2)

/-- `Pipeline.Run`, up to `pipeline started`: the units in the order it starts them. -/
def Pipeline.run (p : Pipeline) : Except String (List SoftUnit) := do
  let stage ← if 0 < p.procs.length then processorStage p else pure ([], s1)
  pure (inputUnits p.ins ++ [.fusion "inputs-to-processors" (inputsOut p.ins.length) s1] ++
    stage.1 ++ [.broadcast "to-outputs" stage.2 (bcastOuts p.outs.length)] ++ outputUnits p.outs)

/-! ## The reference topology -/

/-- The graph the specification's start sequence describes, written from its words for
    built inputs, processor lines and outputs: input `i` writes its own channel, and a
    fusion merges them into `S1`; when processors are configured, processor `j` of line
    `i` reads `S1` when it is the first and what processor `j - 1` writes otherwise, and a
    fusion merges each line's last channel `L_i` into `S2`; without processors `S2 = S1`;
    a broadcast from `S2` writes one channel per output, and output `i` reads the `i`-th. -/
def referenceRun (ins : List pluginSet) (lines : List (List pluginSet)) (outs : List pluginSet) :
    List SoftUnit :=
  let chain (i : Nat) (line : List pluginSet) : List SoftUnit :=
    line.mapIdx fun j s => .processor s (if j = 0 then s1 else .procOut i (j - 1)) (.procOut i j)
  let lastOf (i : Nat) (line : List pluginSet) : Chan :=
    if line.length = 0 then s1 else .procOut i (line.length - 1)
  let stage : List SoftUnit × Chan :=
    if (lines.map List.length).sum = 0 then ([], s1)
    else ((lines.mapIdx chain).flatten ++
      [.fusion "processors-to-broadcast" (lines.mapIdx lastOf) s2], s2)
  ins.mapIdx (fun i s => .input s (.inputOut i)) ++
    [.fusion "inputs-to-processors" (ins.mapIdx fun i _ => .inputOut i) s1] ++ stage.1 ++
    [.broadcast "to-outputs" stage.2 (outs.mapIdx fun i _ => .bcastOut i)] ++
    outs.mapIdx fun i s => .output s (.bcastOut i)

/-- The number of processor plugins over all processor sets. -/
def processorCount (cfg : Config.Pipeline) : Nat := (cfg.processors.map List.length).sum

/-! ## Run on a built pipeline -/

theorem range'_map_getD {α β : Type} (l : List α) (d : α) (f : Nat → α → β) :
    (List.range' 0 l.length).map (fun i => f i (l.getD i d)) = l.enum.map fun x => f x.1 x.2 := by
  apply List.ext_getElem (by simp)
  intro k h1 h2
  simp [List.getD_eq_getElem?_getD, List.getElem?_eq_getElem (by simpa using h1)]

/-- Input `i`, output `i` and their channels, as `Run` numbers them by position. -/
theorem inputUnits_eq (ins : List pluginSet) :
    inputUnits ins = ins.mapIdx fun i s => .input s (.inputOut i) := by
  rw [List.mapIdx_eq_enum_map]
  rfl

theorem inputsOut_length (ins : List pluginSet) :
    inputsOut ins.length = ins.mapIdx fun i _ => .inputOut i :=
  List.ext_getElem (by simp [inputsOut]) fun _ _ _ => by simp [inputsOut]

theorem bcastOuts_length (outs : List pluginSet) :
    bcastOuts outs.length = outs.mapIdx fun i _ => .bcastOut i :=
  List.ext_getElem (by simp [bcastOuts]) fun _ _ _ => by simp [bcastOuts]

theorem outputUnits_eq (outs : List pluginSet) :
    outputUnits outs = outs.mapIdx fun i s => .output s (.bcastOut i) := by
  rw [List.mapIdx_eq_enum_map]
  rfl

/-- Line `i` from `c`, its numbering started at `j`, in closed form: each processor reads
    the channel the one before it writes, the first reads `c`. -/
theorem processorLine_eq (i : Nat) : ∀ (c : Chan) (j : Nat) (line : List pluginSet),
    processorLine i c j line =
      (line.mapIdx fun k s => .processor s (if k = 0 then c else .procOut i (j + k - 1)) (.procOut i (j + k)),
        if line.length = 0 then c else .procOut i (j + line.length - 1))
  | _, _, [] => rfl
  | c, j, s :: rest => by
    rw [processorLine, processorLine_eq i _ (j + 1) rest, List.mapIdx_cons]
    refine Prod.ext (List.cons_eq_cons.mpr ⟨rfl, congrArg (List.mapIdx · rest) ?_⟩) ?_
    · funext k s
      rcases k with _ | k <;> simp
      omega
    · cases rest <;> simp
      omega

theorem map_mapIdx {α β γ : Type} (f : β → γ) (g : Nat → α → β) (l : List α) :
    (l.mapIdx g).map f = l.mapIdx fun i a => f (g i a) := by
  simp only [List.mapIdx_eq_enum_map, List.map_map]
  rfl

/-- The lines of the processor stage, as the specification numbers them. -/
theorem processorLines_eq (lines : List (List pluginSet)) :
    lines.enum.map (fun l => processorLine l.1 s1 0 l.2) = lines.mapIdx fun i line =>
      (line.mapIdx fun j s => .processor s (if j = 0 then s1 else .procOut i (j - 1)) (.procOut i j),
        if line.length = 0 then s1 else .procOut i (line.length - 1)) := by
  rw [List.mapIdx_eq_enum_map]
  exact List.map_congr_left fun l _ => by simpa using processorLine_eq l.1 s1 0 l.2

/-- With as many lines as `Lines`, the processor stage never panics: line `i` is the
    chain of `p.procs[i]`. -/
theorem processorStage_eq {p : Pipeline} (hL : p.procs.length = p.config.settings.lines.toNat) :
    processorStage p = .ok (let chains := p.procs.enum.map fun l => processorLine l.1 s1 0 l.2
      (chains.flatMap Prod.fst ++ [.fusion "processors-to-broadcast" (chains.map Prod.snd) s2], s2)) := by
  have hloop := @forLines_of_ok _ (fun i => match p.procs[i]? with
      | some line => .ok (processorLine i s1 0 line)
      | none => .error "runtime error: index out of range")
    (fun i => processorLine i s1 0 (p.procs.getD i [])) 0 p.config.settings.lines.toNat
    (fun k _ hk => by simp [List.getElem?_eq_getElem (show k < p.procs.length by omega)])
  rw [processorStage, hloop, ← hL, range'_map_getD]
  rfl

/-- Each line of a built pipeline has as many processors as the configuration. -/
theorem procs_length_eq {reg : Registry} {order : Nat → Nat → Config.PluginSet → Config.PluginSet}
    (hperm : ∀ i index set, (order i index set).Perm set) {cfg : Config.Pipeline} {p p' : Pipeline}
    (hnew : new cfg = .ok p) (hb : p.build reg order = .ok p') :
    p'.procs.map List.length = List.replicate cfg.settings.lines.toNat (processorCount cfg) := by
  obtain ⟨-, hlen, hline⟩ := new_build_procs hnew hb
  apply List.ext_getElem (by simp [hlen])
  intro i h1 h2
  have := congrArg List.length (hline i (by simpa using h1))
  rw [List.length_map, (lineStack_perm hperm cfg i).length_eq, List.length_flatten] at this
  simp [this, processorCount]

/-- With a processor, `Run` on a built pipeline with at least one line wires the
    reference topology. -/
theorem run_eq_referenceRun {reg : Registry}
    {order : Nat → Nat → Config.PluginSet → Config.PluginSet}
    (hperm : ∀ i index set, (order i index set).Perm set) {cfg : Config.Pipeline} {p p' : Pipeline}
    (hnew : new cfg = .ok p) (hb : p.build reg order = .ok p') (hL : 1 ≤ cfg.settings.lines)
    (hK : 0 < processorCount cfg) :
    p'.run = .ok (referenceRun p'.ins p'.procs p'.outs) := by
  obtain ⟨hcfg, hlen, -⟩ := new_build_procs hnew hb
  have hlines := procs_length_eq hperm hnew hb
  have hsum : (p'.procs.map List.length).sum ≠ 0 := by
    rw [hlines, List.sum_const_nat]
    exact Nat.mul_ne_zero (by omega) (by omega)
  rw [Pipeline.run, if_pos (by omega), processorStage_eq (by rw [hcfg, hlen])]
  simp only [referenceRun, if_neg hsum, processorLines_eq, inputUnits_eq, inputsOut_length,
    bcastOuts_length, outputUnits_eq, List.flatMap_def, map_mapIdx]
  rfl

/-- A registry that knows every plugin type and accepts every configuration. -/
def acceptAll : Registry where
  input _ := some fun _ _ _ => none
  processor _ := some fun _ _ _ => none
  output _ := some fun _ _ _ => none
  filter _ := some fun _ _ _ => none

/-- Two lines, an input, a processor and an output. -/
def oneProcessor : Config.Pipeline :=
  ⟨⟨"main", 2, true, 10⟩, [[("http", [])]], [[("drop", [])]], [[("log", [])]]⟩

theorem run_eq_referenceRun_two_lines :
    ∃ p p', new oneProcessor = .ok p ∧ p.build acceptAll (fun _ _ set => set) = .ok p' ∧
      1 ≤ oneProcessor.settings.lines ∧ 0 < processorCount oneProcessor ∧
      p'.run = .ok (referenceRun p'.ins p'.procs p'.outs) :=
  ⟨_, _, rfl, rfl, by decide, by decide,
    @run_eq_referenceRun acceptAll _ (fun _ _ _ => List.Perm.refl _) oneProcessor _ _ rfl rfl (by decide)
      (by decide)⟩

/-- Without processors, `Run` on a built pipeline with `L ≥ 1` lines starts a processors
    fusion reading `S1` once per line, and the broadcast reads its output `S2`; the
    reference topology has no such fusion and its broadcast reads `S1`. -/
theorem run_without_processors {reg : Registry}
    {order : Nat → Nat → Config.PluginSet → Config.PluginSet}
    (hperm : ∀ i index set, (order i index set).Perm set) {cfg : Config.Pipeline} {p p' : Pipeline}
    (hnew : new cfg = .ok p) (hb : p.build reg order = .ok p') (hL : 1 ≤ cfg.settings.lines)
    (hK : processorCount cfg = 0) :
    p'.run = .ok (inputUnits p'.ins ++ [.fusion "inputs-to-processors" (inputsOut p'.ins.length) s1] ++
      [.fusion "processors-to-broadcast" (List.replicate cfg.settings.lines.toNat s1) s2] ++
      [.broadcast "to-outputs" s2 (bcastOuts p'.outs.length)] ++ outputUnits p'.outs) ∧
    referenceRun p'.ins p'.procs p'.outs =
      inputUnits p'.ins ++ [.fusion "inputs-to-processors" (inputsOut p'.ins.length) s1] ++
      [.broadcast "to-outputs" s1 (bcastOuts p'.outs.length)] ++ outputUnits p'.outs := by
  obtain ⟨hcfg, hlen, -⟩ := new_build_procs hnew hb
  have hempty : p'.procs = List.replicate cfg.settings.lines.toNat [] := by
    have hlines := procs_length_eq hperm hnew hb
    rw [hK] at hlines
    exact List.eq_replicate_iff.mpr ⟨hlen, fun l hl => List.eq_nil_of_length_eq_zero
      (List.eq_of_mem_replicate (hlines ▸ List.mem_map_of_mem List.length hl))⟩
  have hchains : ∀ n, (List.replicate n ([] : List pluginSet)).enum.map
      (fun l => processorLine l.1 s1 0 l.2) = List.replicate n ([], s1) := by
    intro n
    apply List.ext_getElem (by simp)
    intro k h1 h2
    simp [processorLine]
  refine ⟨?_, ?_⟩
  · rw [Pipeline.run, if_pos (by omega), processorStage_eq (by rw [hcfg, hlen])]
    simp [hempty, hchains]
  · simp [referenceRun, hempty, List.sum_const_nat, inputUnits_eq, inputsOut_length,
      bcastOuts_length, outputUnits_eq]

/-- One line, an input, an output and no processor. -/
def noProcessors : Config.Pipeline :=
  ⟨⟨"main", 1, true, 10⟩, [[("http", [])]], [], [[("log", [])]]⟩

theorem run_without_processors_one_line :
    ∃ p p', new noProcessors = .ok p ∧ p.build acceptAll (fun _ _ set => set) = .ok p' ∧
      1 ≤ noProcessors.settings.lines ∧ processorCount noProcessors = 0 ∧
      (p'.run = .ok (inputUnits p'.ins ++
          [.fusion "inputs-to-processors" (inputsOut p'.ins.length) s1] ++
          [.fusion "processors-to-broadcast" (List.replicate noProcessors.settings.lines.toNat s1) s2] ++
          [.broadcast "to-outputs" s2 (bcastOuts p'.outs.length)] ++ outputUnits p'.outs) ∧
        referenceRun p'.ins p'.procs p'.outs =
          inputUnits p'.ins ++ [.fusion "inputs-to-processors" (inputsOut p'.ins.length) s1] ++
          [.broadcast "to-outputs" s1 (bcastOuts p'.outs.length)] ++ outputUnits p'.outs) :=
  ⟨_, _, rfl, rfl, by decide, rfl,
    @run_without_processors acceptAll _ (fun _ _ _ => List.Perm.refl _) _ _ _ rfl rfl (by decide) rfl⟩

end Neptunus.Pipeline
