import TickTock.Config.Reload

/-! # Paths and listener counts

Each getter tests a name with `exists`, which sees the overrides too, then reads the properties
only; the two agree once a reload has laid the overrides over the file. -/

namespace TickTock

/-- Modelled from the spec: `CFG_TSDB_DATA_DIR` of config.h, the name `tsdb.data.dir`. -/
def cfgTsdbDataDir : String := "tsdb.data.dir"

/-- Modelled from the spec: `CFG_TICKTOCK_HOME` of config.h, the name `ticktock.home`. -/
def cfgTicktockHome : String := "ticktock.home"

/-- Modelled from the spec: `CFG_LOG_FILE` of config.h, the name `log.file`. -/
def cfgLogFile : String := "log.file"

/-- `str.find_last_of(ch)`, counting characters where the code counts bytes; for the one-byte
`'/'` the text `substr(0, pos)` keeps is the same. -/
def findLastOf : List Char → Char → Option ℕ
  | [], _ => none
  | x :: xs, ch =>
    match findLastOf xs ch with
    | some i => some (i + 1)
    | none => if x = ch then some 0 else none

theorem findLastOf_eq_none {ch : Char} : ∀ {xs : List Char}, findLastOf xs ch = none ↔ ch ∉ xs
  | [] => by simp [findLastOf]
  | x :: xs => by
    have ih := @findLastOf_eq_none ch xs
    rw [findLastOf, List.mem_cons]
    cases h : findLastOf xs ch with
    | some i => simp only [reduceCtorEq, false_iff, not_not]; exact .inr (by simpa [h] using ih)
    | none =>
      have hn : ch ∉ xs := ih.1 h
      by_cases hx : x = ch
      · simp [hx, hn]
      · simp [hx, hn, Ne.symm hx]

theorem findLastOf_eq_some {ch : Char} :
    ∀ {xs : List Char} {i : ℕ}, findLastOf xs ch = some i →
      xs = xs.take i ++ ch :: xs.drop (i + 1) ∧ ch ∉ xs.drop (i + 1)
  | [], _, h => by simp [findLastOf] at h
  | x :: xs, i, h => by
    rw [findLastOf] at h
    cases hr : findLastOf xs ch with
    | some j =>
      rw [hr, Option.some_inj] at h
      subst h
      obtain ⟨e, hn⟩ := findLastOf_eq_some hr
      exact ⟨by rw [List.take_succ_cons, List.drop_succ_cons, List.cons_append, ← e], hn⟩
    | none =>
      rw [hr] at h
      split_ifs at h with hx
      · cases h
        exact ⟨by simp [hx], by simpa using findLastOf_eq_none.1 hr⟩

namespace Config

/-! ### The paths -/

section Paths

variable (gWorkingDir : String)

def getDataDir (c : Config) : String :=
  if c.exists cfgTsdbDataDir then c.getStr cfgTsdbDataDir
  else if c.exists cfgTicktockHome then c.getStr cfgTicktockHome ++ "/data"
  else gWorkingDir ++ "/data"

def getLogDir (c : Config) : String :=
  if c.exists cfgLogFile then
    match findLastOf (c.getStr cfgLogFile).data '/' with
    | none => gWorkingDir
    | some pos => ⟨(c.getStr cfgLogFile).data.take pos⟩
  else if c.exists cfgTicktockHome then c.getStr cfgTicktockHome ++ "/log"
  else gWorkingDir ++ "/log"

def getLogFile (c : Config) : String :=
  if c.exists cfgLogFile then c.getStr cfgLogFile
  else c.getLogDir gWorkingDir ++ "/ticktock.log"

/-- The log file lies in the log directory, unless `log.file` names no directory. -/
theorem getLogFile_in_getLogDir (c : Config) :
    (c.exists cfgLogFile = true →
      c.getLogFile gWorkingDir = c.getStr cfgLogFile ∧
        ('/' ∈ (c.getStr cfgLogFile).data → ∃ base : String, '/' ∉ base.data ∧
          c.getStr cfgLogFile = c.getLogDir gWorkingDir ++ "/" ++ base) ∧
        ('/' ∉ (c.getStr cfgLogFile).data → c.getLogDir gWorkingDir = gWorkingDir)) ∧
      (c.exists cfgLogFile = false →
        c.getLogFile gWorkingDir = c.getLogDir gWorkingDir ++ "/ticktock.log") := by
  refine ⟨fun he => ⟨by simp only [getLogFile, he, if_true], fun hin => ?_, fun hout => ?_⟩,
    fun he => by simp [getLogFile, he]⟩
  · obtain ⟨pos, hf⟩ := Option.ne_none_iff_exists'.1 fun h => findLastOf_eq_none.1 h hin
    obtain ⟨e, hn⟩ := findLastOf_eq_some hf
    refine ⟨⟨(c.getStr cfgLogFile).data.drop (pos + 1)⟩, hn, String.ext ?_⟩
    simpa [getLogDir, he, hf] using e
  · simp only [getLogDir, he, findLastOf_eq_none.2 hout, if_true]

end Paths

/-! ### When `exists` and the getters agree -/

/-- Every override is also a property, as a complete reload leaves it. -/
def OverridesApplied (c : Config) : Prop :=
  ∀ k, (c.getOverride k).isSome → (c.getProperty k).isSome

theorem exists_of_overridesApplied {c : Config} (h : c.OverridesApplied) (k : String) :
    c.exists k = (c.getProperty k).isSome := by
  unfold «exists»
  cases ho : (c.getOverride k).isSome
  · exact Bool.or_false _
  · simp [h k ho]

theorem overridesApplied_reload_lines (tokenize : String → Char → Option (String × String))
    (c : Config) (ls : List String) : (c.reload tokenize (.lines ls)).1.OverridesApplied := by
  intro k ho
  rw [getOverride_reload] at ho
  rw [getProperty_reload_lines, Option.isSome_or, ho, Bool.true_or]

theorem getDataDir_of_overridesApplied (gWorkingDir : String) {c : Config}
    (h : c.OverridesApplied) :
    c.getDataDir gWorkingDir =
      match c.getProperty cfgTsdbDataDir, c.getProperty cfgTicktockHome with
      | some dir, _ => dir
      | none, some home => home ++ "/data"
      | none, none => gWorkingDir ++ "/data" := by
  simp only [getDataDir, exists_of_overridesApplied h, getStr]
  cases c.getProperty cfgTsdbDataDir <;> cases c.getProperty cfgTicktockHome <;> rfl

section Reloads

variable (tokenize : String → Char → Option (String × String)) (gWorkingDir : String)

/-- After a complete reload the data directory follows the precedence a user expects. -/
theorem getDataDir_reload_lines (c : Config) (ls : List String) :
    (c.reload tokenize (.lines ls)).1.getDataDir gWorkingDir =
      match (c.getOverride cfgTsdbDataDir).or (lastValue tokenize ls cfgTsdbDataDir),
        (c.getOverride cfgTicktockHome).or (lastValue tokenize ls cfgTicktockHome) with
      | some dir, _ => dir
      | none, some home => home ++ "/data"
      | none, none => gWorkingDir ++ "/data" := by
  rw [getDataDir_of_overridesApplied gWorkingDir (overridesApplied_reload_lines tokenize c ls),
    getProperty_reload_lines, getProperty_reload_lines]

theorem exists_reload_unopenable (c : Config) (k : String) :
    (c.reload tokenize .unopenable).1.exists k = (c.getOverride k).isSome := by
  rw [«exists», getProperty_reload_unopenable, getOverride_reload]
  rfl

/-- After a reload that cannot open the file, a path given on the command line reads as `""`. -/
theorem paths_reload_unopenable (c : Config) :
    (c.reload tokenize .unopenable).1.getDataDir gWorkingDir =
        (if (c.getOverride cfgTsdbDataDir).isSome then ""
        else if (c.getOverride cfgTicktockHome).isSome then "/data"
        else gWorkingDir ++ "/data") ∧
      (c.reload tokenize .unopenable).1.getLogFile gWorkingDir =
        (if (c.getOverride cfgLogFile).isSome then ""
        else if (c.getOverride cfgTicktockHome).isSome then "/log/ticktock.log"
        else gWorkingDir ++ "/log/ticktock.log") := by
  have hs : ∀ k, (c.reload tokenize .unopenable).1.getStr k = "" := fun _ => rfl
  simp only [getDataDir, getLogFile, getLogDir, exists_reload_unopenable, hs]
  refine ⟨rfl, ?_⟩
  split_ifs <;> simp only [String.append_assoc] <;> rfl

end Reloads

/-! ### Listener counts -/

section Counts

variable (tokenize : String → Char → Option (String × String)) (stoi : String → Option ℤ)
  (asInt : String → Option ℤ)

/-- `Config::get_count_internal`, `none` where it throws. -/
def getCountInternal (c : Config) (name : String) (defValue which : ℤ) : Option ℤ :=
  if c.exists name then
    match tokenize (c.getStr name) ',' with
    | some (first, second) => stoi (if which = 0 then first else second)
    | none => c.getInt asInt name
  else some defValue

/-- `http.listener.count` is the spec's name for `CFG_HTTP_LISTENER_COUNT`; the defaults of this
getter and the three below (config.h) are parameters. -/
def getHttpListenerCount (c : Config) (countDef which : ℤ) : Option ℤ :=
  getCountInternal tokenize stoi asInt c "http.listener.count" countDef which

def getHttpRespondersPerListener (c : Config) (countDef which : ℤ) : Option ℤ :=
  getCountInternal tokenize stoi asInt c "http.responders.per.listener" countDef which

def getTcpListenerCount (c : Config) (countDef which : ℤ) : Option ℤ :=
  getCountInternal tokenize stoi asInt c "tcp.listener.count" countDef which

def getTcpRespondersPerListener (c : Config) (countDef which : ℤ) : Option ℤ :=
  getCountInternal tokenize stoi asInt c "tcp.responders.per.listener" countDef which

theorem getCountInternal_of_overridesApplied {c : Config} (h : c.OverridesApplied)
    (name : String) (defValue which : ℤ) :
    c.getCountInternal tokenize stoi asInt name defValue which =
      match c.getProperty name with
      | none => some defValue
      | some value =>
        match tokenize value ',' with
        | some (first, second) => stoi (if which = 0 then first else second)
        | none => asInt value := by
  simp only [getCountInternal, exists_of_overridesApplied h, getStr, getInt, get?]
  cases c.getProperty name <;> rfl

/-- Once the overrides are applied, a count throws only in converting a value that is there. -/
theorem getCountInternal_none_of_overridesApplied {c : Config} (h : c.OverridesApplied)
    {name : String} {defValue which : ℤ}
    (hn : c.getCountInternal tokenize stoi asInt name defValue which = none) :
    ∃ value, c.getProperty name = some value ∧
      ((∃ first second, tokenize value ',' = some (first, second) ∧
          stoi (if which = 0 then first else second) = none) ∨
        (tokenize value ',' = none ∧ asInt value = none)) := by
  rw [getCountInternal_of_overridesApplied tokenize stoi asInt h] at hn
  rcases hp : c.getProperty name with _ | value
  · simp [hp] at hn
  · refine ⟨value, rfl, ?_⟩
    rcases ht : tokenize value ',' with _ | ⟨first, second⟩
    · exact .inr ⟨rfl, by simpa [hp, ht] using hn⟩
    · exact .inl ⟨first, second, rfl, by simpa [hp, ht] using hn⟩

theorem getCountInternal_none_of_unparsable_part :
    let c := Config.empty.setValue "http.listener.count" "x,2"
    let tokenize : String → Char → Option (String × String) := fun _ _ => some ("x", "2")
    let stoi : String → Option ℤ := fun s => if s = "2" then some 2 else none
    c.OverridesApplied ∧
      c.getCountInternal tokenize stoi (fun _ => some 0) "http.listener.count" 1 0 = none ∧
      ∃ value, c.getProperty "http.listener.count" = some value ∧
        ((∃ first second, tokenize value ',' = some (first, second) ∧
            stoi (if (0 : ℤ) = 0 then first else second) = none) ∨
          (tokenize value ',' = none ∧ (fun _ => some 0 : String → Option ℤ) value = none)) :=
  have ho : (Config.empty.setValue "http.listener.count" "x,2").OverridesApplied :=
    fun _ h => by simp at h
  have hn : (Config.empty.setValue "http.listener.count" "x,2").getCountInternal
      (fun _ _ => some ("x", "2")) (fun s => if s = "2" then some 2 else none) (fun _ => some 0)
      "http.listener.count" 1 0 = none := by decide
  ⟨ho, hn, getCountInternal_none_of_overridesApplied _ _ _ ho hn⟩

end Counts

end Config

end TickTock
