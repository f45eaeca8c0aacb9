import TickTock.Page.PageManager

/-! # A data file in use

A `PageManager` with the page views its allocators handed out. Allocations are serialised by
`m_lock` and writes to a page by series affinity, so a run is a list of operations. -/

namespace TickTock

structure Store where
  pm : PageManager
  pages : ℕ → Option PageInfo

/-- An operation on a data file. `shrinkPage` is `PageInfo::shrink_to_fit`, `shrinkToFit` is
`PageManager::shrink_to_fit`. -/
inductive Op
  | getFreePageOnDisk (ooo : Bool)
  | getFreePageForCompaction
  | addDataPoint (slot tstamp : ℕ) (outcome : Option (CompressorPosition × Bool))
  | persist (slot : ℕ)
  | flush (slot : ℕ)
  | shrinkPage (slot : ℕ)
  | shrinkToFit
  deriving DecidableEq

def Op.shrunkSlot : Op → Option ℕ
  | .shrinkPage slot => some slot
  | _ => none

/-- The header fields no operation of a run writes; the compacted flag, once set, stays set. -/
structure PageManager.SameFile (pm pm' : PageManager) : Prop where
  timeRange : pm'.timeRange = pm.timeRange
  compressorVersion : pm'.compressorVersion = pm.compressorVersion
  fileCompressorVersion : pm'.fileCompressorVersion = pm.fileCompressorVersion
  pageCount : pm'.pageCount = pm.pageCount
  stays_compacted : pm.compacted = true → pm'.compacted = true

theorem PageManager.SameFile.refl (pm : PageManager) : pm.SameFile pm := ⟨rfl, rfl, rfl, rfl, id⟩

theorem PageManager.SameFile.trans {a b c : PageManager} (h : a.SameFile b) (h' : b.SameFile c) :
    a.SameFile c :=
  ⟨h'.timeRange.trans h.timeRange, h'.compressorVersion.trans h.compressorVersion,
    h'.fileCompressorVersion.trans h.fileCompressorVersion, h'.pageCount.trans h.pageCount,
    h'.stays_compacted ∘ h.stays_compacted⟩

namespace Store

variable (L : Layout)

def create (range : TimeRange) (compressorVersion pageCount : ℕ) : Store :=
  ⟨PageManager.create L range compressorVersion pageCount, fun _ => none⟩

def adopt (s : Store) : Option (PageManager × PageInfo) → Store
  | some (pm, info) => ⟨pm, Function.update s.pages info.slot (some info)⟩
  | none => s

def onPage (s : Store) (slot : ℕ) (f : PageManager → PageInfo → PageManager × PageInfo) : Store :=
  match s.pages slot with
  | some pi => ⟨(f s.pm pi).1, Function.update s.pages slot (some (f s.pm pi).2)⟩
  | none => s

theorem onPage_of_some {s : Store} {slot : ℕ} {pi : PageInfo} (h : s.pages slot = some pi) (f) :
    s.onPage slot f = ⟨(f s.pm pi).1, Function.update s.pages slot (some (f s.pm pi).2)⟩ := by
  simp [onPage, h]

def step (s : Store) : Op → Store
  | .getFreePageOnDisk ooo => s.adopt (PageManager.getFreePageOnDisk L s.pm ooo)
  | .getFreePageForCompaction => s.adopt (PageManager.getFreePageForCompaction L s.pm)
  | .addDataPoint slot t outcome => s.onPage slot fun pm pi => (pm, (pi.addDataPoint t outcome).1)
  | .persist slot => s.onPage slot fun pm pi => (PageInfo.persist pm pi, pi)
  | .flush slot => s.onPage slot PageInfo.flush
  | .shrinkPage slot => s.onPage slot PageInfo.shrinkToFit
  | .shrinkToFit => { s with pm := PageManager.shrinkToFit L s.pm }

def run (s : Store) (ops : List Op) : Store := ops.foldl (step L) s

@[simp] theorem run_nil (s : Store) : run L s [] = s := rfl

theorem run_append (s : Store) (ops ops' : List Op) :
    run L s (ops ++ ops') = run L (run L s ops) ops' := List.foldl_append _ _ _ _

theorem run_concat (s : Store) (ops : List Op) (op : Op) :
    run L s (ops ++ [op]) = step L (run L s ops) op := by
  simp [run_append, run]

@[simp] theorem run_cons (s : Store) (op : Op) (ops : List Op) :
    run L s (op :: ops) = run L (step L s op) ops := rfl

def appendPage (s : Store) (r : PageInfoOnDisk) (pi : PageInfo) : Store :=
  ⟨{ s.pm.setPageInfo s.pm.headerIndex r with
      pageIndex := s.pm.pageIndex + 1, headerIndex := s.pm.headerIndex + 1 },
   Function.update s.pages s.pm.headerIndex (some pi)⟩

theorem appendPage_pageInfo (s : Store) (r : PageInfoOnDisk) (pi : PageInfo) (i : ℕ) :
    (s.appendPage r pi).pm.pageInfo i = if i = s.pm.headerIndex then r else s.pm.pageInfo i :=
  PageManager.setPageInfo_pageInfo _ _ _ _

def onDiskView (s : Store) (ooo : Bool) : PageInfo :=
  ⟨s.pm.headerIndex, some (Compressor.init (if ooo then 0 else s.pm.compressorVersion)
      s.pm.timeRange.tsFrom (s.pm.pageIndex * L.pageSize % 2 ^ 32) L.pageSize),
    ⟨s.pm.timeRange.tsTo, s.pm.timeRange.tsFrom⟩⟩

theorem step_getFreePageOnDisk (s : Store) (ooo : Bool) :
    step L s (.getFreePageOnDisk ooo) = s ∨
      s.pm.pageIndex < s.pm.actualPgCnt ∧ s.pm.headerIndex < s.pm.pageCount ∧
      step L s (.getFreePageOnDisk ooo) =
        s.appendPage (PageManager.freshRecord L s.pm.pageIndex ooo) (onDiskView L s ooo) := by
  cases hr : PageManager.getFreePageOnDisk L s.pm ooo with
  | none => exact .inl (by simp [step, hr, adopt])
  | some res =>
    obtain ⟨hP, hH, rfl⟩ := (PageManager.getFreePageOnDisk_eq_some L).1 hr
    exact .inr ⟨hP, hH, by simp only [step, hr, adopt]; rfl⟩

theorem step_getFreePageOnDisk_of_room {s : Store} {ooo : Bool}
    (hP : s.pm.pageIndex < s.pm.actualPgCnt) (hH : s.pm.headerIndex < s.pm.pageCount) :
    step L s (.getFreePageOnDisk ooo) =
      s.appendPage (PageManager.freshRecord L s.pm.pageIndex ooo) (onDiskView L s ooo) := by
  have hr := (@PageManager.getFreePageOnDisk_eq_some L s.pm ooo _).2 ⟨hP, hH, rfl⟩
  simp only [step, hr, adopt]; rfl

def compactionView (s : Store) : PageInfo :=
  let r := PageManager.compactionRecord L s.pm s.pm.headerIndex s.pm.pageIndex
  ⟨s.pm.headerIndex, some (Compressor.init s.pm.compressorVersion s.pm.timeRange.tsFrom
      (r.pageIndex * L.pageSize % 2 ^ 32 + r.offset) r.size),
    ⟨s.pm.timeRange.tsTo, s.pm.timeRange.tsFrom⟩⟩

theorem step_getFreePageForCompaction (s : Store) :
    step L s .getFreePageForCompaction = s ∨
      s.pm.pageIndex < s.pm.actualPgCnt ∧ s.pm.headerIndex < s.pm.pageCount ∧
      step L s .getFreePageForCompaction =
        s.appendPage (PageManager.compactionRecord L s.pm s.pm.headerIndex s.pm.pageIndex)
          (compactionView L s) := by
  cases hr : PageManager.getFreePageForCompaction L s.pm with
  | none => exact .inl (by simp [step, hr, adopt])
  | some res =>
    obtain ⟨hP, hH, rfl⟩ := (PageManager.getFreePageForCompaction_eq_some L).1 hr
    exact .inr ⟨hP, hH, by simp only [step, hr, adopt]; rfl⟩

theorem step_getFreePageForCompaction_of_room {s : Store} (hP : s.pm.pageIndex < s.pm.actualPgCnt)
    (hH : s.pm.headerIndex < s.pm.pageCount) :
    step L s .getFreePageForCompaction =
      s.appendPage (PageManager.compactionRecord L s.pm s.pm.headerIndex s.pm.pageIndex)
        (compactionView L s) := by
  have hr := (@PageManager.getFreePageForCompaction_eq_some L s.pm _).2 ⟨hP, hH, rfl⟩
  simp only [step, hr, adopt]; rfl

theorem step_sameFile (s : Store) (op : Op) : PageManager.SameFile s.pm (step L s op).pm := by
  have hadopt : ∀ r : Option (PageManager × PageInfo), (∀ x ∈ r, s.pm.SameFile x.1) →
      s.pm.SameFile (s.adopt r).pm := by
    rintro (_ | ⟨pm, info⟩) h
    · exact .refl _
    · exact h _ rfl
  have honPage : ∀ slot f, (∀ pi, s.pm.SameFile (f s.pm pi).1) →
      s.pm.SameFile (s.onPage slot f).pm := by
    intro slot f h
    unfold onPage; split
    · exact h _
    · exact .refl _
  cases op with
  | getFreePageOnDisk ooo =>
    refine hadopt _ fun x hx => ?_
    obtain ⟨-, -, rfl⟩ := (PageManager.getFreePageOnDisk_eq_some L).1 hx
    exact ⟨rfl, rfl, rfl, rfl, id⟩
  | getFreePageForCompaction =>
    refine hadopt _ fun x hx => ?_
    obtain ⟨-, -, rfl⟩ := (PageManager.getFreePageForCompaction_eq_some L).1 hx
    exact ⟨rfl, rfl, rfl, rfl, id⟩
  | addDataPoint => exact honPage _ _ fun _ => .refl _
  | persist =>
    exact honPage _ _ fun pi => by rw [PageInfo.persist_eq]; exact ⟨rfl, rfl, rfl, rfl, id⟩
  | flush =>
    exact honPage _ _ fun pi => by
      rw [PageInfo.flush_fst, PageInfo.persist_eq]; exact ⟨rfl, rfl, rfl, rfl, id⟩
  | shrinkPage =>
    exact honPage _ _ fun pi => by rw [PageInfo.shrinkToFit_fst]; exact ⟨rfl, rfl, rfl, rfl, id⟩
  | shrinkToFit => exact ⟨rfl, rfl, rfl, rfl, fun _ => rfl⟩

theorem run_sameFile (s : Store) (ops : List Op) : PageManager.SameFile s.pm (run L s ops).pm := by
  induction ops generalizing s with
  | nil => exact .refl _
  | cons op ops ih => exact (step_sameFile L s op).trans (ih _)

/-- `~PageManager` and `PageManager::PageManager` on the same file: no page view survives. -/
def reopen (s : Store) : Store := ⟨s.pm.reopen L, fun _ => none⟩

/-- The states of a data file: a new file, then any operation or a close and reopen. -/
inductive Reachable : Store → Prop
  | create (range : TimeRange) (compressorVersion pageCount : ℕ) :
      Reachable (create L range compressorVersion pageCount)
  | step {s : Store} (op : Op) : Reachable s → Reachable (step L s op)
  | reopen {s : Store} : Reachable s → Reachable (s.reopen L)

theorem step_shrinkPage_of_compressor {s : Store} {slot : ℕ} {pi : PageInfo} {c : Compressor}
    (hpi : s.pages slot = some pi) (hslot : pi.slot = slot) (hc : pi.compressor = some c) :
    let s' := step L s (.shrinkPage slot)
    (s'.pm.pageInfo slot).size =
        PageInfo.compactedSize s.pm.compressorVersion c.position.offset c.position.start ∧
      (s'.pm.pageInfo slot).full = c.full ∧
      (s'.pages slot).map (PageInfo.isFull s'.pm) = some c.full := by
  obtain ⟨hsize, hfull, hisFull⟩ := PageInfo.shrinkToFit_of_compressor s.pm pi c hc
  rw [hslot] at hsize hfull
  simp only [step, onPage_of_some hpi, Function.update_same, Option.map_some']
  exact ⟨hsize, hfull, congrArg some hisFull⟩

/-- One point leaves the compressor at cursor 10, not full; `PageInfo::shrink_to_fit` then
gives the record size 10 but leaves it, and `is_full()`, not full. -/
theorem shrink_leaves_page_unsealed :
    (run specLayout (create specLayout ⟨0, 3600⟩ 1 4)
        [.getFreePageOnDisk false, .addDataPoint 0 100 (some (⟨10, 0⟩, false)),
          .shrinkPage 0]).pm.compressorVersion = 1 ∧
      let s := run specLayout (create specLayout ⟨0, 3600⟩ 1 4)
        [.getFreePageOnDisk false, .addDataPoint 0 100 (some (⟨10, 0⟩, false)), .shrinkPage 0]
      (s.pm.pageInfo 0).size = 10 ∧ (s.pm.pageInfo 0).full = false ∧
        (s.pages 0).map (PageInfo.isFull s.pm) = some false := by
  let s := run specLayout (create specLayout ⟨0, 3600⟩ 1 4)
    [.getFreePageOnDisk false, .addDataPoint 0 100 (some (⟨10, 0⟩, false))]
  obtain ⟨hsize, hfull, hisFull⟩ := @step_shrinkPage_of_compressor specLayout s 0 _ _ rfl rfl rfl
  exact ⟨rfl, hsize, hfull, hisFull⟩

theorem Reachable.compressorVersion_eq {s : Store} (hs : Reachable L s) :
    s.pm.compressorVersion = s.pm.fileCompressorVersion := by
  induction hs with
  | create => rfl
  | @step s op _ ih =>
    have h := step_sameFile L s op
    rw [h.compressorVersion, h.fileCompressorVersion, ih]
  | reopen => rfl

end Store

end TickTock
