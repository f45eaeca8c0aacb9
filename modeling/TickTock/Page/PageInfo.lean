import TickTock.Page.Layout

/-! # `PageInfo`

The view of one page: its record in the page-info table and, while it is written, a live
compressor. Each operation takes the `PageManager` that holds the record and returns it. -/

namespace TickTock

namespace PageManager

theorem setPageInfo_setPageInfo_self (pm : PageManager) (id a b) :
    (pm.setPageInfo id a).setPageInfo id b = pm.setPageInfo id b := by
  simp [setPageInfo]

theorem setPageInfo_pageInfo_self_eq (pm : PageManager) (id) :
    pm.setPageInfo id (pm.pageInfo id) = pm := by
  simp [setPageInfo]

end PageManager

namespace PageInfo

variable (L : Layout)

/-- `PageInfo::get_page`; `idx * g_page_size` is a 32-bit product. -/
def getPage (pm : PageManager) (pi : PageInfo) : ℕ :=
  (pm.pageInfo pi.slot).pageIndex * L.pageSize % 2 ^ 32 + (pm.pageInfo pi.slot).offset

def isFull (pm : PageManager) (pi : PageInfo) : Bool :=
  match pi.compressor with
  | some c => c.full
  | none => (pm.pageInfo pi.slot).full

def recycle (pi : PageInfo) : PageInfo := { pi with compressor := none }

/-- `PageInfo::init_for_disk`; the in-memory range starts empty, as `[to, from]`. -/
def initForDisk (pm : PageManager) (slot pageIdx size : ℕ) (isOoo : Bool) :
    PageManager × PageInfo :=
  (pm.setPageInfo slot
    { PageInfoOnDisk.empty with outOfOrder := isOoo, pageIndex := pageIdx, offset := 0,
                                size := size },
   ⟨slot, none, ⟨pm.timeRange.tsTo, pm.timeRange.tsFrom⟩⟩)

def initFromDisk (pm : PageManager) (slot : ℕ) : PageInfo :=
  ⟨slot, none, ⟨(pm.pageInfo slot).tstampFrom + pm.timeRange.tsFrom,
                (pm.pageInfo slot).tstampTo + pm.timeRange.tsFrom⟩⟩

/-- `PageInfo::setup_compressor`: an out-of-order page always gets a version-0 compressor. -/
def setupCompressor (pm : PageManager) (pi : PageInfo) (range : TimeRange) (version : ℕ) :
    PageInfo :=
  { pi with compressor := some (Compressor.init
      (if (pm.pageInfo pi.slot).outOfOrder then 0 else version) range.tsFrom
      (getPage L pm pi) (pm.pageInfo pi.slot).size) }

def ensureDpAvailable (pm : PageManager) (pi : PageInfo) : PageInfo :=
  match pi.compressor with
  | some _ => pi
  | none =>
    let position : CompressorPosition := ⟨(pm.pageInfo pi.slot).cursor, (pm.pageInfo pi.slot).start⟩
    let pi := setupCompressor L pm pi pm.timeRange pm.compressorVersion
    { pi with compressor := pi.compressor.map (·.restore position) }

/-- `PageInfo::add_data_point`: `outcome` is what `compress` did (the codec is not modelled),
`none` if it refused the point. -/
def addDataPoint (pi : PageInfo) (tstamp : ℕ) (outcome : Option (CompressorPosition × Bool)) :
    PageInfo × Bool :=
  match pi.compressor, outcome with
  | some c, some (pos, full) =>
    ({ pi with compressor := some { c with position := pos, full := full },
               timeRange := pi.timeRange.addTime tstamp }, true)
  | _, _ => (pi, false)

def persistedRecord (pm : PageManager) (pi : PageInfo) : PageInfoOnDisk :=
  match pi.compressor with
  | none => pm.pageInfo pi.slot
  | some c =>
    (pm.pageInfo pi.slot).init c.position.offset c.position.start c.full
      (pi.timeRange.tsFrom - pm.timeRange.tsFrom) (pi.timeRange.tsTo - pm.timeRange.tsFrom)

/-- `PageInfo::persist`; copying the buffer moves page bytes, which the model does not hold. -/
def persist (pm : PageManager) (pi : PageInfo) : PageManager :=
  match pi.compressor with
  | none => pm
  | some _ => pm.setPageInfo pi.slot (persistedRecord pm pi)

def flush (pm : PageManager) (pi : PageInfo) : PageManager × PageInfo :=
  match pi.compressor with
  | none => (pm, pi)
  | some _ =>
    let pm := persist pm pi
    (pm, if isFull pm pi then recycle pi else pi)

/-- The size `PageInfo::shrink_to_fit` computes from a saved position, in 16 bits. -/
def compactedSize (version cursor start : ℕ) : ℕ :=
  let size := if start ≠ 0 then (cursor + 1) % 2 ^ 16 else cursor
  if version = 0 then size * 16 % 2 ^ 16 else size

def shrinkToFit (pm : PageManager) (pi : PageInfo) : PageManager × PageInfo :=
  let pm := persist pm pi
  let h := pm.pageInfo pi.slot
  let pm := pm.setPageInfo pi.slot
    { h with size := compactedSize pm.compressorVersion h.cursor h.start, full := true }
  flush pm pi

/-! ## Frame lemmas -/

theorem persist_eq (pm : PageManager) (pi : PageInfo) :
    persist pm pi = pm.setPageInfo pi.slot (persistedRecord pm pi) := by
  unfold persist persistedRecord
  split <;> simp_all [PageManager.setPageInfo_pageInfo_self_eq]

@[simp] theorem persistedRecord_pageIndex (pm : PageManager) (pi : PageInfo) :
    (persistedRecord pm pi).pageIndex = (pm.pageInfo pi.slot).pageIndex := by
  unfold persistedRecord; split <;> rfl
@[simp] theorem persistedRecord_offset (pm : PageManager) (pi : PageInfo) :
    (persistedRecord pm pi).offset = (pm.pageInfo pi.slot).offset := by
  unfold persistedRecord; split <;> rfl
@[simp] theorem persistedRecord_size (pm : PageManager) (pi : PageInfo) :
    (persistedRecord pm pi).size = (pm.pageInfo pi.slot).size := by
  unfold persistedRecord; split <;> rfl
@[simp] theorem persistedRecord_outOfOrder (pm : PageManager) (pi : PageInfo) :
    (persistedRecord pm pi).outOfOrder = (pm.pageInfo pi.slot).outOfOrder := by
  unfold persistedRecord; split <;> rfl

theorem flush_fst (pm : PageManager) (pi : PageInfo) : (flush pm pi).1 = persist pm pi := by
  unfold flush persist; split <;> rfl

theorem flush_snd_slot (pm : PageManager) (pi : PageInfo) : (flush pm pi).2.slot = pi.slot := by
  unfold flush; split
  · rfl
  · dsimp only; split <;> rfl

theorem flush_snd_compressor (pm : PageManager) (pi : PageInfo) {c : Compressor}
    (h : (flush pm pi).2.compressor = some c) : pi.compressor = some c := by
  unfold flush at h
  split at h
  · exact h
  · dsimp only at h; split at h
    · simp [recycle] at h
    · exact h

/-- The record `shrink_to_fit` leaves: the compacted size, then whatever the nested `flush`
persists over it. -/
def shrunkRecord (pm : PageManager) (pi : PageInfo) : PageInfoOnDisk :=
  let h := persistedRecord pm pi
  persistedRecord (pm.setPageInfo pi.slot
    { h with size := compactedSize pm.compressorVersion h.cursor h.start, full := true }) pi

theorem shrinkToFit_fst (pm : PageManager) (pi : PageInfo) :
    (shrinkToFit pm pi).1 = pm.setPageInfo pi.slot (shrunkRecord pm pi) := by
  simp only [shrinkToFit, flush_fst, persist_eq, shrunkRecord,
    PageManager.setPageInfo_setPageInfo_self, PageManager.setPageInfo_pageInfo_self,
    PageManager.setPageInfo_compressorVersion]

theorem shrunkRecord_size (pm : PageManager) (pi : PageInfo) :
    (shrunkRecord pm pi).size = compactedSize pm.compressorVersion
      (persistedRecord pm pi).cursor (persistedRecord pm pi).start := by
  simp [shrunkRecord]

@[simp] theorem shrunkRecord_cursor (pm : PageManager) (pi : PageInfo) :
    (shrunkRecord pm pi).cursor = (persistedRecord pm pi).cursor := by
  unfold shrunkRecord persistedRecord; split <;> simp
@[simp] theorem shrunkRecord_start (pm : PageManager) (pi : PageInfo) :
    (shrunkRecord pm pi).start = (persistedRecord pm pi).start := by
  unfold shrunkRecord persistedRecord; split <;> simp
@[simp] theorem shrunkRecord_pageIndex (pm : PageManager) (pi : PageInfo) :
    (shrunkRecord pm pi).pageIndex = (pm.pageInfo pi.slot).pageIndex := by simp [shrunkRecord]
@[simp] theorem shrunkRecord_offset (pm : PageManager) (pi : PageInfo) :
    (shrunkRecord pm pi).offset = (pm.pageInfo pi.slot).offset := by simp [shrunkRecord]
@[simp] theorem shrunkRecord_outOfOrder (pm : PageManager) (pi : PageInfo) :
    (shrunkRecord pm pi).outOfOrder = (pm.pageInfo pi.slot).outOfOrder := by simp [shrunkRecord]

/-! ## The saved position

`persist`, `flush` and `shrink_to_fit` save the position they find, so shrinking a page again
with nothing added in between gives the same size. -/

/-- The position `persist` saves for a view: its compressor's, or the one its record holds. -/
def savedPosition (pm : PageManager) (pi : PageInfo) : CompressorPosition :=
  match pi.compressor with
  | some c => c.position
  | none => ⟨(pm.pageInfo pi.slot).cursor, (pm.pageInfo pi.slot).start⟩

theorem shrunkRecord_size_eq (pm : PageManager) (pi : PageInfo) :
    (shrunkRecord pm pi).size =
      compactedSize pm.compressorVersion (savedPosition pm pi).offset (savedPosition pm pi).start := by
  cases h : pi.compressor <;> simp [shrunkRecord_size, persistedRecord, savedPosition, h]

theorem shrunkRecord_size_congr {pm pm' : PageManager} (pi : PageInfo)
    (hv : pm'.compressorVersion = pm.compressorVersion)
    (hr : pm'.pageInfo pi.slot = pm.pageInfo pi.slot) :
    (shrunkRecord pm' pi).size = (shrunkRecord pm pi).size := by
  simp only [shrunkRecord_size_eq, savedPosition, hv, hr]

theorem shrunkRecord_size_persist (pm : PageManager) (pi : PageInfo) :
    (shrunkRecord (persist pm pi) pi).size = (shrunkRecord pm pi).size := by
  cases h : pi.compressor <;> simp [shrunkRecord_size_eq, savedPosition, persist, h]

theorem shrunkRecord_size_flush (pm : PageManager) (pi : PageInfo) :
    (shrunkRecord (flush pm pi).1 (flush pm pi).2).size = (shrunkRecord pm pi).size := by
  cases h : pi.compressor with
  | none => simp [flush, h]
  | some c =>
    simp only [flush, h]
    split
    · simp [shrunkRecord_size_eq, savedPosition, recycle, persist_eq, persistedRecord, h]
    · exact shrunkRecord_size_persist pm pi

theorem shrunkRecord_size_shrinkToFit (pm : PageManager) (pi : PageInfo) :
    (shrunkRecord (shrinkToFit pm pi).1 (shrinkToFit pm pi).2).size = (shrunkRecord pm pi).size := by
  rw [shrinkToFit, shrunkRecord_size_flush]
  cases h : pi.compressor <;> simp [shrunkRecord_size_eq, savedPosition, persist, h]

/-! ## Shrinking a live page -/

theorem isFull_flush_of_compressor (pm : PageManager) (pi : PageInfo) (c : Compressor)
    (hc : pi.compressor = some c) : isFull (flush pm pi).1 (flush pm pi).2 = c.full := by
  have hp : isFull (persist pm pi) pi = c.full := by simp [isFull, hc]
  simp only [flush, hc]
  split
  · simp [isFull, recycle, persist_eq, persistedRecord, hc]
  · exact hp

/-- With a live compressor, the nested `flush` persists `is_full()` over the full flag that
`shrink_to_fit` set, and `is_full()` keeps reporting the compressor. -/
theorem shrinkToFit_of_compressor (pm : PageManager) (pi : PageInfo) (c : Compressor)
    (hc : pi.compressor = some c) :
    ((shrinkToFit pm pi).1.pageInfo pi.slot).size =
        compactedSize pm.compressorVersion c.position.offset c.position.start ∧
      ((shrinkToFit pm pi).1.pageInfo pi.slot).full = c.full ∧
      isFull (shrinkToFit pm pi).1 (shrinkToFit pm pi).2 = c.full := by
  refine ⟨?_, ?_, isFull_flush_of_compressor _ pi c hc⟩
  · simp [shrinkToFit_fst, shrunkRecord_size, persistedRecord, hc]
  · simp [shrinkToFit_fst, shrunkRecord, persistedRecord, hc]

end PageInfo

end TickTock
