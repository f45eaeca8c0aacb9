import TickTock.Config.Properties

/-! # `Config::reload`

`reload` clears `m_properties` before it opens the file, so one that throws leaves only the
lines read before the failure, and no override. `tokenize` (utils.h) is a parameter. -/

namespace TickTock

/-- Modelled from the spec (utils.h is not under src/): `starts_with(str, ch)`, whether the
first character of `str` is `ch`. -/
def startsWith (str : String) (ch : Char) : Bool := str.data.head? == some ch

/-- Modelled from the spec: a line that starts with `;` or `#` is a comment. -/
def isComment (line : String) : Bool := startsWith line ';' || startsWith line '#'

/-- What opening and reading `g_config_file` gives. -/
inductive ConfigFile
  | unopenable
  | lines (ls : List String)
  | failsAfter (ls : List String) (what : String)

namespace Config

variable (tokenize : String → Char → Option (String × String))

def readLine (c : Config) (line : String) : Config :=
  if startsWith line ';' then c
  else if startsWith line '#' then c
  else match tokenize line '=' with
    | none => c
    | some (key, value) => c.setValueNoLock key value

/-- `Config::reload`, with `.error what` where it rethrows what it caught. -/
def reload (c : Config) : ConfigFile → Config × Except String Bool
  | .unopenable =>
    ({ c with properties := .empty }, .error "Failed to open config file for read")
  | .failsAfter ls what =>
    (ls.foldl (readLine tokenize) { c with properties := .empty }, .error what)
  | .lines ls =>
    let c' := ls.foldl (readLine tokenize) { c with properties := .empty }
    (c'.overrides.entries.foldl (fun c e => c.setValueNoLock e.1 e.2) c', .ok false)

inductive Op
  | reload (file : ConfigFile)
  | addOverride (name value : String)
  | setValue (name value : String)

def step (c : Config) : Op → Config
  | .reload file => (c.reload tokenize file).1
  | .addOverride name value => c.addOverride name value
  | .setValue name value => c.setValue name value

def run (c : Config) (ops : List Op) : Config := ops.foldl (step tokenize) c

/-! ### What the file and the overrides say -/

def lineValue (key line : String) : Option String :=
  if isComment line then none
  else match tokenize line '=' with
    | some (k, v) => if k = key then some v else none
    | none => none

def lastValue (ls : List String) (key : String) : Option String :=
  ls.reverse.findSome? (lineValue tokenize key)

def Op.overrideOf (key : String) : Op → Option String
  | .addOverride name value => if name = key then some value else none
  | _ => none

def latestOverride (ops : List Op) (key : String) : Option String :=
  ops.reverse.findSome? (Op.overrideOf key)

theorem findSome?_singleton {α β : Type} (f : α → Option β) (a : α) :
    [a].findSome? f = f a := by
  cases h : f a <;> simp [List.findSome?_cons, h]

theorem isSome_lineValue (key line : String) :
    (lineValue tokenize key line).isSome ↔
      isComment line = false ∧ ∃ v, tokenize line '=' = some (key, v) := by
  unfold lineValue
  cases isComment line
  · rcases tokenize line '=' with _ | ⟨k, v⟩
    · simp
    · by_cases h : k = key <;> simp [h]
  · simp

/-! ### One line, one file -/

@[simp] theorem overrides_readLine (c : Config) (line : String) :
    (readLine tokenize c line).overrides = c.overrides := by
  unfold readLine
  split_ifs <;> (try split) <;> rfl

theorem getProperty_readLine (c : Config) (line k : String) :
    (readLine tokenize c line).getProperty k =
      (lineValue tokenize k line).or (c.getProperty k) := by
  unfold readLine lineValue isComment
  cases startsWith line ';' <;> cases startsWith line '#' <;> simp only [Bool.or_self,
    Bool.or_true, Bool.true_or, Bool.false_eq_true, if_true, if_false, Option.none_or]
  rcases tokenize line '=' with _ | ⟨key, value⟩
  · rfl
  · by_cases h : k = key <;> simp [h, eq_comm]

@[simp] theorem overrides_foldl_readLine (c : Config) (ls : List String) :
    (ls.foldl (readLine tokenize) c).overrides = c.overrides := by
  induction ls generalizing c with
  | nil => rfl
  | cons l ls ih => simp [ih]

theorem getProperty_foldl_readLine (c : Config) (ls : List String) (k : String) :
    (ls.foldl (readLine tokenize) c).getProperty k =
      (lastValue tokenize ls k).or (c.getProperty k) := by
  induction ls generalizing c with
  | nil => rfl
  | cons l ls ih =>
    rw [List.foldl_cons, ih, getProperty_readLine, lastValue, lastValue, List.reverse_cons,
      List.findSome?_append, findSome?_singleton, Option.or_assoc]

theorem getProperty_foldl_setValueNoLock (c : Config) (o : PropMap) (k : String) :
    (o.entries.foldl (fun c e => c.setValueNoLock e.1 e.2) c).getProperty k =
      (o.find k).or (c.getProperty k) := by
  obtain ⟨es, hs⟩ := o
  simp only [PropMap.find]
  induction es generalizing c with
  | nil => rfl
  | cons e es ih =>
    obtain ⟨k', v'⟩ := e
    rw [List.map_cons, List.sorted_cons] at hs
    rw [List.foldl_cons, ih _ hs.2]
    by_cases hk : k = k'
    · subst hk
      have : es.lookup k = none :=
        List.lookup_eq_none_iff.2 fun p hp => by
          simpa using (hs.1 p.1 (List.mem_map_of_mem _ hp)).ne
      simp [this]
    · simp [hk]

@[simp] theorem overrides_foldl_setValueNoLock (c : Config) (es : List (String × String)) :
    (es.foldl (fun c e => c.setValueNoLock e.1 e.2) c).overrides = c.overrides := by
  induction es generalizing c with
  | nil => rfl
  | cons e es ih => rw [List.foldl_cons, ih]; rfl

/-! ### What a reload leaves -/

@[simp] theorem overrides_reload (c : Config) (file : ConfigFile) :
    (c.reload tokenize file).1.overrides = c.overrides := by
  cases file <;> simp [reload]

@[simp] theorem getOverride_reload (c : Config) (file : ConfigFile) (k : String) :
    (c.reload tokenize file).1.getOverride k = c.getOverride k := by
  simp [getOverride]

theorem getProperty_reload_lines (c : Config) (ls : List String) (k : String) :
    (c.reload tokenize (.lines ls)).1.getProperty k =
      (c.getOverride k).or (lastValue tokenize ls k) := by
  simp only [reload, getProperty_foldl_setValueNoLock, getProperty_foldl_readLine,
    overrides_foldl_readLine]
  simp [getOverride, getProperty]

theorem getProperty_reload_unopenable (c : Config) (k : String) :
    (c.reload tokenize .unopenable).1.getProperty k = none := rfl

/-- A reload that throws while reading leaves the lines read before the failure, and no override. -/
theorem getProperty_reload_failsAfter (c : Config) (ls : List String) (what k : String) :
    (c.reload tokenize (.failsAfter ls what)).1.getProperty k = lastValue tokenize ls k := by
  simp only [reload, getProperty_foldl_readLine]
  exact Option.or_none

/-- A reload that cannot open the file drops a property `k = v` set by `set_value`. -/
theorem unopenable_reload_drops_property :
    (Config.empty.setValue "k" "v").«exists» "k" = true ∧
    (Config.empty.setValue "k" "v").getStr "k" = "v" ∧
    ((Config.empty.setValue "k" "v").reload tokenize .unopenable).1.«exists» "k" = false ∧
    ((Config.empty.setValue "k" "v").reload tokenize .unopenable).1.getStr "k" = "" :=
  ⟨rfl, rfl, rfl, rfl⟩

/-! ### Runs -/

theorem getOverride_step (c : Config) (op : Op) (k : String) :
    (step tokenize c op).getOverride k = (op.overrideOf k).or (c.getOverride k) := by
  cases op with
  | reload file => simp [step, Op.overrideOf, getOverride]
  | addOverride name value =>
    by_cases h : name = k <;> simp [step, Op.overrideOf, h, Ne.symm]
  | setValue name value => simp [step, Op.overrideOf]

theorem getOverride_run (c : Config) (ops : List Op) (k : String) :
    (run tokenize c ops).getOverride k = (latestOverride ops k).or (c.getOverride k) := by
  induction ops generalizing c with
  | nil => rfl
  | cons op ops ih =>
    simp only [run, latestOverride, List.foldl_cons, List.reverse_cons, List.findSome?_append,
      findSome?_singleton, Option.or_assoc] at ih ⊢
    rw [ih, getOverride_step]

theorem run_snoc (c : Config) (ops : List Op) (op : Op) :
    run tokenize c (ops ++ [op]) = step tokenize (run tokenize c ops) op := by
  simp [run, List.foldl_append]

/-- After any calls that end with a complete reload, a name's property is its latest override,
else the file's last value for it. -/
theorem reload_applies_file_and_overrides (c : Config) (ops : List Op) (ls : List String) :
    (∀ k, (run tokenize c (ops ++ [.reload (.lines ls)])).«exists» k = true ↔
      ((latestOverride ops k).or (c.getOverride k)).isSome ∨
        ∃ line ∈ ls, isComment line = false ∧ ∃ v, tokenize line '=' = some (k, v)) ∧
    ∀ k, (run tokenize c (ops ++ [.reload (.lines ls)])).getProperty k =
      ((latestOverride ops k).or (c.getOverride k)).or (lastValue tokenize ls k) := by
  have hp : ∀ k, (run tokenize c (ops ++ [.reload (.lines ls)])).getProperty k =
      ((latestOverride ops k).or (c.getOverride k)).or (lastValue tokenize ls k) := fun k => by
    rw [run_snoc, step, getProperty_reload_lines, getOverride_run]
  refine ⟨fun k => ?_, hp⟩
  have ho : (run tokenize c (ops ++ [.reload (.lines ls)])).getOverride k =
      (latestOverride ops k).or (c.getOverride k) := by
    rw [run_snoc, step, getOverride_reload, getOverride_run]
  rw [«exists», hp, ho]
  simp only [Option.isSome_or, lastValue, List.findSome?_isSome_iff, List.mem_reverse,
    isSome_lineValue, Bool.or_eq_true]
  exact or_iff_left_of_imp .inl

end Config

end TickTock
