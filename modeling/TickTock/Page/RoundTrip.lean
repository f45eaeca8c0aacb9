import Mathlib.Data.List.Basic
import TickTock.Page.Store

/-! # Persisting a page and reading it back

The reader sees only the record `persist` wrote, so the round trip is assembled from one lemma
per stage: allocation, `add_data_point` run, persist, reopen and read. -/

namespace TickTock

namespace TimeRange

/-- `r` is exactly `[min ts, max ts]`. -/
def Spans (r : TimeRange) (ts : List ℕ) : Prop :=
  r.tsFrom ∈ ts ∧ r.tsTo ∈ ts ∧ ∀ t ∈ ts, r.tsFrom ≤ t ∧ t ≤ r.tsTo

instance (r : TimeRange) (ts : List ℕ) : Decidable (r.Spans ts) :=
  inferInstanceAs (Decidable (_ ∧ _ ∧ _))

theorem spans_addTime_empty {a b t : ℕ} (ha : a ≤ t) (hb : t < b) :
    Spans ((⟨b, a⟩ : TimeRange).addTime t) [t] := by
  simp only [Spans, addTime, List.mem_singleton, forall_eq]
  omega

theorem Spans.addTime {r : TimeRange} {ts : List ℕ} (h : r.Spans ts) (t : ℕ) :
    (r.addTime t).Spans (ts ++ [t]) := by
  obtain ⟨hf, ht, hall⟩ := h
  refine ⟨?_, ?_, ?_⟩
  · rcases min_choice r.tsFrom t with h | h <;> simp [TimeRange.addTime, h, hf]
  · rcases max_choice r.tsTo t with h | h <;> simp [TimeRange.addTime, h, ht]
  · simp only [List.mem_append, List.mem_singleton, TimeRange.addTime]
    rintro x (hx | rfl)
    · have := hall x hx; omega
    · omega

theorem spans_foldl_addTime {a b : ℕ} (ts : List ℕ) (hne : ts ≠ [])
    (hts : ∀ t ∈ ts, a ≤ t ∧ t < b) : (ts.foldl addTime ⟨b, a⟩).Spans ts := by
  induction ts using List.reverseRecOn with
  | nil => exact absurd rfl hne
  | append_singleton ts t ih =>
    have ht := hts t (by simp)
    rw [List.foldl_append, List.foldl_cons, List.foldl_nil]
    rcases eq_or_ne ts [] with rfl | hne'
    · exact spans_addTime_empty ht.1 ht.2
    · exact (ih hne' fun x hx => hts x (by simp [hx])).addTime t

end TimeRange

namespace PageInfo

theorem addDataPoint_of_some {pi : PageInfo} {c : Compressor} (hc : pi.compressor = some c)
    (tstamp : ℕ) (o : CompressorPosition × Bool) :
    pi.addDataPoint tstamp (some o) =
      ({ pi with compressor := some { c with position := o.1, full := o.2 },
                 timeRange := pi.timeRange.addTime tstamp }, true) := by
  simp [addDataPoint, hc]

theorem addDataPoint_foldl (pi : PageInfo) (c : Compressor) (hc : pi.compressor = some c)
    (pts : List (ℕ × CompressorPosition × Bool)) (p : ℕ × CompressorPosition × Bool) :
    (pts ++ [p]).foldl (fun pi q => (pi.addDataPoint q.1 (some q.2)).1) pi =
      { pi with compressor := some { c with position := p.2.1, full := p.2.2 },
                timeRange :=
                  ((pts ++ [p]).map Prod.fst).foldl TimeRange.addTime pi.timeRange } := by
  induction pts generalizing pi c with
  | nil => exact congrArg Prod.fst (addDataPoint_of_some hc _ p.2)
  | cons q pts ih =>
    rw [List.cons_append, List.foldl_cons, addDataPoint_of_some hc, ih _ _ rfl]
    rfl

/-- `get_the_page_on_disk` then `ensure_dp_available` restores the saved position. -/
theorem read_persisted (L : Layout) (pm : PageManager) (slot : ℕ) (hslot : slot < pm.pageCount)
    (r : PageInfoOnDisk) (pos : CompressorPosition) (full : Bool) (a b : ℕ)
    (h : pm.pageInfo slot = r.init pos.offset pos.start full a b) :
    (pm.getThePageOnDisk slot).map (ensureDpAvailable L pm) =
      some ⟨slot, some ⟨if r.outOfOrder then 0 else pm.compressorVersion, pm.timeRange.tsFrom,
          r.pageIndex * L.pageSize % 2 ^ 32 + r.offset, r.size, pos, false⟩,
        ⟨a % 2 ^ 32 + pm.timeRange.tsFrom, b % 2 ^ 32 + pm.timeRange.tsFrom⟩⟩ := by
  simp [PageManager.getThePageOnDisk, Nat.not_le.2 hslot, ensureDpAvailable, initFromDisk,
    setupCompressor, getPage, h, Compressor.init, Compressor.restore, PageInfoOnDisk.init]

end PageInfo

namespace Store

variable (L : Layout)

theorem run_addDataPoint (s : Store) (slot : ℕ) (pi : PageInfo) (h : s.pages slot = some pi)
    (pts : List (ℕ × Option (CompressorPosition × Bool))) :
    run L s (pts.map fun q => .addDataPoint slot q.1 q.2) =
      ⟨s.pm, Function.update s.pages slot
        (some (pts.foldl (fun pi q => (pi.addDataPoint q.1 q.2).1) pi))⟩ := by
  induction pts generalizing s pi with
  | nil => simp [← h]
  | cons q pts ih =>
    rw [List.map_cons, run_cons, step, onPage_of_some h, ih _ (pi.addDataPoint q.1 q.2).1 (by simp)]
    simp

theorem step_alloc (s : Store) (alloc : Op)
    (halloc : alloc = .getFreePageForCompaction ∨ ∃ ooo, alloc = .getFreePageOnDisk ooo)
    (hP : s.pm.pageIndex < s.pm.actualPgCnt) (hH : s.pm.headerIndex < s.pm.pageCount) :
    ∃ (r : PageInfoOnDisk) (w : Compressor),
      (r.outOfOrder = true ↔ alloc = .getFreePageOnDisk true) ∧
      w = Compressor.init (if r.outOfOrder then 0 else s.pm.compressorVersion)
        s.pm.timeRange.tsFrom (r.pageIndex * L.pageSize % 2 ^ 32 + r.offset) r.size ∧
      step L s alloc =
        s.appendPage r
          ⟨s.pm.headerIndex, some w, ⟨s.pm.timeRange.tsTo, s.pm.timeRange.tsFrom⟩⟩ := by
  rcases halloc with rfl | ⟨ooo, rfl⟩
  · rw [step_getFreePageForCompaction_of_room L hP hH]
    refine ⟨PageManager.compactionRecord L s.pm s.pm.headerIndex s.pm.pageIndex, _, by simp, rfl,
      ?_⟩
    simp [compactionView]
  · refine ⟨PageManager.freshRecord L s.pm.pageIndex ooo, _, ?_, rfl, ?_⟩
    · cases ooo <;> simp [PageManager.freshRecord]
    · rw [step_getFreePageOnDisk_of_room L hP hH]
      cases ooo <;> rfl

theorem run_save (s : Store) (slot : ℕ) (pi : PageInfo) (c : Compressor)
    (h : s.pages slot = some pi) (hslot : pi.slot = slot) (hc : pi.compressor = some c)
    (pts : List (ℕ × CompressorPosition × Bool)) (p : ℕ × CompressorPosition × Bool) (save : Op)
    (hsave : save = .persist slot ∨ save = .flush slot) :
    (run L s ((pts ++ [p]).map (fun q => .addDataPoint slot q.1 (some q.2)) ++ [save])).pm =
      s.pm.setPageInfo slot ((s.pm.pageInfo slot).init p.2.1.offset p.2.1.start p.2.2
        ((((pts ++ [p]).map Prod.fst).foldl TimeRange.addTime pi.timeRange).tsFrom -
          s.pm.timeRange.tsFrom)
        ((((pts ++ [p]).map Prod.fst).foldl TimeRange.addTime pi.timeRange).tsTo -
          s.pm.timeRange.tsFrom)) := by
  have hpts : (pts ++ [p]).map (fun q => Op.addDataPoint slot q.1 (some q.2)) =
      ((pts ++ [p]).map fun q => (q.1, some q.2)).map fun q => .addDataPoint slot q.1 q.2 := by
    simp
  rw [run_append, hpts, run_addDataPoint L s slot pi h, List.foldl_map,
    PageInfo.addDataPoint_foldl pi c hc]
  rcases hsave with rfl | rfl <;>
    simp [step, onPage, PageInfo.flush_fst, PageInfo.persist_eq, PageInfo.persistedRecord, hslot]

/-- A page written, saved and read back, after a reopen or not: the reader's range is
`[min, max]` of the points, and its compressor is the writer's, at the position saved last. -/
theorem page_round_trip (s : Store) (hs : Reachable L s) (alloc : Op)
    (halloc : alloc = .getFreePageForCompaction ∨ ∃ ooo, alloc = .getFreePageOnDisk ooo)
    (hP : s.pm.pageIndex < s.pm.actualPgCnt) (hH : s.pm.headerIndex < s.pm.pageCount)
    (pts : List (ℕ × CompressorPosition × Bool)) (p : ℕ × CompressorPosition × Bool)
    (hts : ∀ q ∈ pts ++ [p], s.pm.timeRange.tsFrom ≤ q.1 ∧ q.1 < s.pm.timeRange.tsTo)
    (hspan : s.pm.timeRange.tsTo - s.pm.timeRange.tsFrom < 2 ^ 32) (save : Op)
    (hsave : save = .persist s.pm.headerIndex ∨ save = .flush s.pm.headerIndex) (closed : Bool) :
    let slot := s.pm.headerIndex
    let s₁ := step L s alloc
    let s₂ := run L s₁ ((pts ++ [p]).map (fun q => .addDataPoint slot q.1 (some q.2)) ++ [save])
    let pm := if closed then s₂.pm.reopen L else s₂.pm
    ∃ w v c, (s₁.pages slot).bind PageInfo.compressor = some w ∧
      pm.getThePageOnDisk slot = some v ∧ (PageInfo.ensureDpAvailable L pm v).compressor = some c ∧
      (PageInfo.ensureDpAvailable L pm v).timeRange.Spans ((pts ++ [p]).map Prod.fst) ∧
      c.version = w.version ∧
      (c.version = 0 ↔ alloc = .getFreePageOnDisk true ∨ s.pm.fileCompressorVersion = 0) ∧
      c.startTstamp = w.startTstamp ∧ c.buffer = w.buffer ∧ c.buffer = PageInfo.getPage L pm v ∧
      c.size = w.size ∧ c.position = p.2.1 := by
  intro slot s₁ s₂ pm
  obtain ⟨r, w, hooo, hw, hstep⟩ := step_alloc L s alloc halloc hP hH
  have hv₁ : s₁.pages slot = some ⟨slot, some w, ⟨s.pm.timeRange.tsTo, s.pm.timeRange.tsFrom⟩⟩ := by
    simp only [s₁, hstep, appendPage]; exact Function.update_same _ _ _
  have hpm₂ : s₂.pm = _ := run_save L s₁ slot _ _ hv₁ rfl rfl pts p save hsave
  have hspans := TimeRange.spans_foldl_addTime (a := s.pm.timeRange.tsFrom)
    (b := s.pm.timeRange.tsTo) ((pts ++ [p]).map Prod.fst) (by simp) fun t ht => by
      obtain ⟨q, hq, rfl⟩ := List.mem_map.1 ht; exact hts q hq
  set tr := ((pts ++ [p]).map Prod.fst).foldl TimeRange.addTime
    ⟨s.pm.timeRange.tsTo, s.pm.timeRange.tsFrom⟩
  have hcv := hs.compressorVersion_eq
  have hrec : pm.pageInfo slot = r.init p.2.1.offset p.2.1.start p.2.2
      (tr.tsFrom - s.pm.timeRange.tsFrom) (tr.tsTo - s.pm.timeRange.tsFrom) := by
    cases closed <;> simp [pm, hpm₂, s₁, hstep, appendPage, PageManager.reopen]
  have hfile : pm.timeRange = s.pm.timeRange ∧ pm.compressorVersion = s.pm.compressorVersion ∧
      pm.pageCount = s.pm.pageCount := by
    cases closed <;> simp [pm, hpm₂, s₁, hstep, appendPage, PageManager.reopen, hcv]
  obtain ⟨v, hv, hread⟩ := Option.map_eq_some'.1
    (PageInfo.read_persisted L pm slot (by omega) r p.2.1 p.2.2 _ _ hrec)
  have hvs : v = PageInfo.initFromDisk pm slot := by
    simp only [PageManager.getThePageOnDisk, Option.ite_none_left_eq_some] at hv
    exact Option.some_injective _ hv.2.symm
  have hbound : ∀ t ∈ (pts ++ [p]).map Prod.fst,
      (t - s.pm.timeRange.tsFrom) % 2 ^ 32 + s.pm.timeRange.tsFrom = t := by
    intro t ht
    obtain ⟨q, hq, rfl⟩ := List.mem_map.1 ht
    have := hts q hq
    rw [Nat.mod_eq_of_lt (by omega)]; omega
  obtain ⟨hfr, hcv', -⟩ := hfile
  refine ⟨w, v, _, by simp [hv₁], hv, by rw [hread], ?_⟩
  rw [hread, hfr, hbound _ hspans.1, hbound _ hspans.2.1, hvs, hcv', hw]
  refine ⟨hspans, rfl, ?_, rfl, rfl, by simp [PageInfo.getPage, PageInfo.initFromDisk, hrec], rfl,
    rfl⟩
  rcases Bool.eq_false_or_eq_true r.outOfOrder with h | h <;>
    simp [Compressor.init, h, ← hooo, hcv]

theorem page_round_trip_ooo_reopened :
    let s := create specLayout ⟨0, 3600⟩ 1 4
    let pts : List (ℕ × CompressorPosition × Bool) := [(10, ⟨5, 1⟩, false)]
    let p : ℕ × CompressorPosition × Bool := (20, ⟨9, 3⟩, false)
    Reachable specLayout s ∧ s.pm.pageIndex < s.pm.actualPgCnt ∧
      s.pm.headerIndex < s.pm.pageCount ∧
      (∀ q ∈ pts ++ [p], s.pm.timeRange.tsFrom ≤ q.1 ∧ q.1 < s.pm.timeRange.tsTo) ∧
      s.pm.timeRange.tsTo - s.pm.timeRange.tsFrom < 2 ^ 32 ∧
      let s₁ := step specLayout s (.getFreePageOnDisk true)
      let s₂ := run specLayout s₁
        ((pts ++ [p]).map (fun q => .addDataPoint 0 q.1 (some q.2)) ++ [.persist 0])
      let pm := s₂.pm.reopen specLayout
      ∃ w v c, (s₁.pages 0).bind PageInfo.compressor = some w ∧
        pm.getThePageOnDisk 0 = some v ∧
        (PageInfo.ensureDpAvailable specLayout pm v).compressor = some c ∧
        (PageInfo.ensureDpAvailable specLayout pm v).timeRange.Spans ((pts ++ [p]).map Prod.fst) ∧
        c.version = w.version ∧
        (c.version = 0 ↔ Op.getFreePageOnDisk true = .getFreePageOnDisk true ∨
          s.pm.fileCompressorVersion = 0) ∧
        c.startTstamp = w.startTstamp ∧ c.buffer = w.buffer ∧
        c.buffer = PageInfo.getPage specLayout pm v ∧ c.size = w.size ∧ c.position = p.2.1 :=
  ⟨.create _ _ _, by decide, by decide, by decide, by decide,
    page_round_trip specLayout _ (.create _ _ _) _ (.inr ⟨true, rfl⟩) (by decide) (by decide) _ _
      (by decide) (by decide) _ (.inl rfl) true⟩

end Store

end TickTock