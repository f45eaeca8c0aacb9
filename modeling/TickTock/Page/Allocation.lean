import TickTock.Page.Counters

/-! # What every fitting run keeps

A header stays inside its page only if `shrink_to_fit` gives it a size that fits, so the runs
here keep each compressor's saved position within its buffer (`Compressor.Fits`). -/

namespace TickTock

/-- The saved cursor, plus one partial byte, times 16 for version 0, fits the compressor's buffer. -/
def Compressor.Fits (c : Compressor) (pos : CompressorPosition) : Prop :=
  (pos.offset + if pos.start ≠ 0 then 1 else 0) * (if c.version = 0 then 16 else 1) ≤ c.size

instance (c : Compressor) (pos : CompressorPosition) : Decidable (c.Fits pos) :=
  inferInstanceAs (Decidable (_ ≤ _))

def Op.movesTo : Op → Option (ℕ × CompressorPosition)
  | .addDataPoint slot _ (some (pos, _)) => some (slot, pos)
  | _ => none

def Op.Fits (s : Store) (op : Op) : Prop :=
  ∀ m ∈ op.movesTo, ∀ c ∈ (s.pages m.1).bind PageInfo.compressor, c.Fits m.2

instance (s : Store) (op : Op) : Decidable (op.Fits s) :=
  inferInstanceAs (Decidable (∀ m ∈ op.movesTo, _))

namespace Store

variable (L : Layout)

def Fitting : Store → List Op → Prop
  | _, [] => True
  | s, op :: ops => op.Fits s ∧ Fitting (step L s op) ops

instance decFitting : (s : Store) → (ops : List Op) → Decidable (Fitting L s ops)
  | _, [] => isTrue trivial
  | s, op :: ops =>
    haveI := decFitting (step L s op) ops
    inferInstanceAs (Decidable (_ ∧ _))

/-- An allocated record lies inside its page, with a saved position that compacts into it. -/
structure RecordOK (version : ℕ) (h : PageInfoOnDisk) : Prop where
  within : h.offset + h.size ≤ L.pageSize
  saved : PageInfo.compactedSize version h.cursor h.start ≤ L.pageSize - h.offset

def ViewOK (pm : PageManager) (i : ℕ) (pi : PageInfo) : Prop :=
  ∀ c, pi.compressor = some c → c.size = L.pageSize - (pm.pageInfo i).offset ∧
    (pm.compressorVersion = 0 → c.version = 0) ∧ c.Fits c.position

/-- The invariant of every run from a new file that respects the compressor bound. -/
structure AllocInv (s : Store) extends CountInv L s : Prop where
  records : ∀ i < s.pm.headerIndex, RecordOK L s.pm.compressorVersion (s.pm.pageInfo i)
  compressors : ∀ i pi, s.pages i = some pi → ViewOK L s.pm i pi

variable {L}

theorem compactedSize_le_of_fits {c : Compressor} {pos : CompressorPosition} {v : ℕ}
    (hfit : c.Fits pos) (hv : v = 0 → c.version = 0) :
    PageInfo.compactedSize v pos.offset pos.start ≤ c.size := by
  have hm : ∀ x, x % 2 ^ 16 ≤ x := fun x => Nat.mod_le x _
  unfold Compressor.Fits at hfit
  unfold PageInfo.compactedSize
  have hs : (if pos.start ≠ 0 then (pos.offset + 1) % 2 ^ 16 else pos.offset) ≤
      pos.offset + if pos.start ≠ 0 then 1 else 0 := by
    by_cases h : pos.start ≠ 0
    · rw [if_pos h, if_pos h]; exact hm _
    · rw [if_neg h, if_neg h]; omega
  by_cases h0 : v = 0
  · simp only [h0, hv h0, if_true] at hfit ⊢
    exact (hm _).trans ((Nat.mul_le_mul_right 16 hs).trans hfit)
  · simp only [h0, if_false]
    refine hs.trans (le_trans ?_ hfit)
    generalize (pos.offset + if pos.start ≠ 0 then 1 else 0) = x
    split <;> omega

theorem allocInv_create (range : TimeRange) (version pageCount : ℕ) :
    AllocInv L (create L range version pageCount) :=
  ⟨countInv_create range version pageCount, fun _ h => absurd h (Nat.not_lt_zero _),
    fun _ _ h => by simp [create] at h⟩

theorem AllocInv.append {s : Store} (hs : AllocInv L s) {r : PageInfoOnDisk} {pi : PageInfo}
    (hcount : CountInv L (s.appendPage r pi)) (hwithin : r.offset + r.size ≤ L.pageSize)
    (hcur : r.cursor = 0) (hstart : r.start = 0)
    (hc : ∀ c, pi.compressor = some c → c.size = L.pageSize - r.offset ∧
      (s.pm.compressorVersion = 0 → c.version = 0) ∧ c.Fits c.position) :
    AllocInv L (s.appendPage r pi) := by
  refine ⟨hcount, fun i hi => ?_, fun i pi' h => ?_⟩
  · simp only [appendPage] at hi
    rw [appendPage_pageInfo]
    split
    · exact ⟨hwithin, by simp [hcur, hstart, PageInfo.compactedSize]⟩
    · exact hs.records i (by omega)
  · simp only [appendPage] at h
    by_cases hiH : i = s.pm.headerIndex
    · subst hiH
      simp only [Function.update_same, Option.some.injEq] at h
      subst h
      simpa [ViewOK, appendPage] using hc
    · rw [Function.update_noteq hiH] at h
      simpa [ViewOK, appendPage, PageManager.setPageInfo_pageInfo_of_ne _ _ hiH] using
        hs.compressors i pi' h

theorem AllocInv.getFreePageOnDisk {s : Store} (hs : AllocInv L s) (ooo : Bool) :
    AllocInv L (step L s (.getFreePageOnDisk ooo)) := by
  have hcount := hs.toCountInv.getFreePageOnDisk ooo
  obtain h | ⟨-, -, h⟩ := step_getFreePageOnDisk L s ooo
  · rwa [h]
  rw [h] at hcount ⊢
  refine hs.append hcount (by simp [PageManager.freshRecord]) rfl rfl ?_
  rintro c ⟨⟩
  refine ⟨by simp [Compressor.init, PageManager.freshRecord],
    by cases ooo <;> simp_all [Compressor.init], ?_⟩
  simp [Compressor.Fits, Compressor.init]

theorem AllocInv.getFreePageForCompaction {s : Store} (hs : AllocInv L s) :
    AllocInv L (step L s .getFreePageForCompaction) := by
  have hcount := hs.toCountInv.getFreePageForCompaction
  obtain h | ⟨-, -, h⟩ := step_getFreePageForCompaction L s
  · rwa [h]
  rw [h] at hcount ⊢
  obtain ⟨-, -, -, hend, hcur, hstart, -⟩ := compactionRecord_spec hs.toCountInv
  refine hs.append hcount hend.le hcur hstart ?_
  rintro c ⟨⟩
  exact ⟨by simp [Compressor.init]; omega, by simp [Compressor.init],
    by simp [Compressor.Fits, Compressor.init]⟩

theorem AllocInv.pageOp {s : Store} (hs : AllocInv L s) (slot : ℕ)
    (f : PageManager → PageInfo → PageManager × PageInfo) (hcount : CountInv L (s.onPage slot f))
    (hf : ∀ pi, s.pages slot = some pi → ∃ r, (f s.pm pi).1 = s.pm.setPageInfo slot r ∧
      r.offset = (s.pm.pageInfo slot).offset ∧ RecordOK L s.pm.compressorVersion r ∧
      (f s.pm pi).2.slot = slot ∧ ∀ c, (f s.pm pi).2.compressor = some c →
        c.size = L.pageSize - r.offset ∧ (s.pm.compressorVersion = 0 → c.version = 0) ∧
        c.Fits c.position) :
    AllocInv L (s.onPage slot f) := by
  refine ⟨hcount, ?_, ?_⟩ <;> unfold onPage <;> split
  · rename_i pi hpi
    obtain ⟨r, hpm, -, hr, -⟩ := hf pi hpi
    intro i hi
    simp only [hpm, PageManager.setPageInfo_headerIndex, PageManager.setPageInfo_pageInfo,
      PageManager.setPageInfo_compressorVersion] at hi ⊢
    split
    · exact hr
    · exact hs.records i hi
  · exact hs.records
  · rename_i pi hpi
    obtain ⟨r, hpm, hoff, -, -, hc⟩ := hf pi hpi
    intro i pi' h
    simp only [hpm, ViewOK, PageManager.setPageInfo_pageInfo,
      PageManager.setPageInfo_compressorVersion] at h ⊢
    by_cases hi : i = slot
    · subst hi
      simp only [Function.update_same, Option.some.injEq] at h
      subst h
      simpa using hc
    · simp only [Function.update_noteq hi] at h
      simpa [hi] using hs.compressors i pi' h
  · exact hs.compressors

/-- What `persist` writes keeps a saved position that compacts into the page. -/
theorem persistedRecord_saved {s : Store} (hs : AllocInv L s) {slot : ℕ} {pi : PageInfo}
    (hpi : s.pages slot = some pi) :
    PageInfo.compactedSize s.pm.compressorVersion (PageInfo.persistedRecord s.pm pi).cursor
      (PageInfo.persistedRecord s.pm pi).start ≤ L.pageSize - (s.pm.pageInfo slot).offset := by
  have hv := hs.views slot pi hpi
  unfold PageInfo.persistedRecord
  split
  · rw [hv.1]; exact (hs.records slot hv.2).saved
  · rename_i c hc
    obtain ⟨hsize, hver, hfit⟩ := hs.compressors slot pi hpi c hc
    simpa [hsize] using compactedSize_le_of_fits hfit hver

theorem persistedRecord_ok {s : Store} (hs : AllocInv L s) {slot : ℕ} {pi : PageInfo}
    (hpi : s.pages slot = some pi) :
    RecordOK L s.pm.compressorVersion (PageInfo.persistedRecord s.pm pi) := by
  have hv := hs.views slot pi hpi
  have hr := hs.records slot hv.2
  exact ⟨by simpa [hv.1] using hr.within, by simpa [hv.1] using persistedRecord_saved hs hpi⟩

theorem AllocInv.shrinkToFit {s : Store} (hs : AllocInv L s) :
    AllocInv L (step L s .shrinkToFit) :=
  ⟨hs.toCountInv.shrinkToFit, hs.records, hs.compressors⟩

theorem AllocInv.persist {s : Store} (hs : AllocInv L s) (slot : ℕ) :
    AllocInv L (step L s (.persist slot)) := by
  have hcount := hs.toCountInv.step (.persist slot)
  show AllocInv L (s.onPage slot fun pm pi => (PageInfo.persist pm pi, pi))
  refine hs.pageOp slot _ hcount fun pi hpi => ?_
  have hv := hs.views slot pi hpi
  refine ⟨PageInfo.persistedRecord s.pm pi, by rw [PageInfo.persist_eq, hv.1], by simp [hv.1],
    persistedRecord_ok hs hpi, hv.1, fun c hc => ?_⟩
  simpa [hv.1] using hs.compressors slot pi hpi c hc

theorem AllocInv.flush {s : Store} (hs : AllocInv L s) (slot : ℕ) :
    AllocInv L (step L s (.flush slot)) := by
  refine hs.pageOp slot _ (hs.toCountInv.step (.flush slot)) fun pi hpi => ?_
  have hv := hs.views slot pi hpi
  refine ⟨PageInfo.persistedRecord s.pm pi, by rw [PageInfo.flush_fst, PageInfo.persist_eq, hv.1],
    by simp [hv.1], persistedRecord_ok hs hpi, (PageInfo.flush_snd_slot _ _).trans hv.1,
    fun c hc => ?_⟩
  simpa [hv.1] using hs.compressors slot pi hpi c (PageInfo.flush_snd_compressor _ _ hc)

theorem AllocInv.shrinkPage {s : Store} (hs : AllocInv L s) (slot : ℕ) :
    AllocInv L (step L s (.shrinkPage slot)) := by
  refine hs.pageOp slot _ (hs.toCountInv.step (.shrinkPage slot)) fun pi hpi => ?_
  have hv := hs.views slot pi hpi
  have hoff := (hs.placed slot hv.2).offset_lt
  have hsaved := persistedRecord_saved hs hpi
  refine ⟨PageInfo.shrunkRecord s.pm pi, by rw [PageInfo.shrinkToFit_fst, hv.1], by simp [hv.1],
    ⟨?_, by simpa [hv.1] using hsaved⟩, (PageInfo.flush_snd_slot _ _).trans hv.1, fun c hc => ?_⟩
  · simp only [PageInfo.shrunkRecord_offset, PageInfo.shrunkRecord_size, hv.1]
    omega
  · simpa [hv.1] using hs.compressors slot pi hpi c (PageInfo.flush_snd_compressor _ _ hc)

theorem AllocInv.addDataPoint {s : Store} (hs : AllocInv L s) (slot t : ℕ)
    (o : Option (CompressorPosition × Bool)) (hop : (Op.addDataPoint slot t o).Fits s) :
    AllocInv L (step L s (.addDataPoint slot t o)) := by
  have hcount := hs.toCountInv.step (.addDataPoint slot t o)
  show AllocInv L (s.onPage slot fun pm pi => (pm, (pi.addDataPoint t o).1))
  refine hs.pageOp slot _ hcount fun pi hpi => ?_
  have hv := hs.views slot pi hpi
  refine ⟨s.pm.pageInfo slot, (PageManager.setPageInfo_pageInfo_self_eq _ _).symm, rfl,
    hs.records slot hv.2, ?_, fun c hc => ?_⟩
  · unfold PageInfo.addDataPoint; split <;> exact hv.1
  · unfold PageInfo.addDataPoint at hc
    split at hc
    · rename_i c₀ pos full hc₀
      simp only [Option.some.injEq] at hc
      subst hc
      obtain ⟨hsize, hver, -⟩ := hs.compressors slot pi hpi c₀ hc₀
      exact ⟨hsize, hver, hop (slot, pos) rfl c₀ (by simp [hpi, hc₀])⟩
    · exact hs.compressors slot pi hpi c hc

theorem AllocInv.step {s : Store} (hs : AllocInv L s) {op : Op} (hop : op.Fits s) :
    AllocInv L (step L s op) := by
  cases op with
  | getFreePageOnDisk ooo => exact hs.getFreePageOnDisk ooo
  | getFreePageForCompaction => exact hs.getFreePageForCompaction
  | addDataPoint slot t o => exact hs.addDataPoint slot t o hop
  | persist slot => exact hs.persist slot
  | flush slot => exact hs.flush slot
  | shrinkPage slot => exact hs.shrinkPage slot
  | shrinkToFit => exact hs.shrinkToFit

theorem AllocInv.run {s : Store} (hs : AllocInv L s) {ops : List Op} (hfit : Fitting L s ops) :
    AllocInv L (run L s ops) := by
  induction ops generalizing s with
  | nil => exact hs
  | cons op ops ih => exact ih (hs.step hfit.1) hfit.2

end Store

end TickTock
