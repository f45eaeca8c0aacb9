import TickTock.Rollup.Bucketing

/-! # Explicit flushes between points

`flush` keeps `m_tstamp`, so the next pass to a later bucket hands the same bucket out again:
a bucket is handed out at most once more than the flushes made while it was current. -/

namespace TickTock

namespace RollupManager

variable {V : Type}

def Op.point? : Op V → Option (Point V)
  | .add tsdb tstamp value => some ⟨tsdb, tstamp, value⟩
  | .flush => none

section Run

variable [LinearOrder V] [Zero V] [Add V]

/-- The explicit flushes among `ops`, run from `m`, made while `b` is the current bucket. -/
def flushesAt (b : ℕ) : RollupManager V → List (Op V) → ℕ
  | _, [] => 0
  | m, op :: ops =>
    (match op with
      | .flush => if m.tstamp = some b then 1 else 0
      | .add .. => 0) + flushesAt b (m.step op) ops

omit [LinearOrder V] [Add V] in
def pending (b : ℕ) (m : RollupManager V) : ℕ :=
  (m.emitted.map RollupPoint.tstamp).count b + if m.tstamp = some b then 1 else 0

/-- The manager after operations whose last point is `last`. -/
structure Tracks (I : ℕ) (last : Option (Point V)) (m : RollupManager V) : Prop where
  fresh : last = none → m.tsdb = none ∧ m.tstamp = none ∧ m.emitted = []
  bound : ∀ p, last = some p → p.Inside I ∧ m.tsdb = some p.tsdb ∧ m.tstamp = some (p.bucket I)
  sorted : (m.emitted.map RollupPoint.tstamp).Pairwise (· ≤ ·)
  le_current : ∀ c, m.tstamp = some c → ∀ e ∈ m.emitted, e.tstamp ≤ c

variable {I : ℕ} {last : Option (Point V)} {m : RollupManager V} {p q : Point V}

omit [LinearOrder V] [Add V] in
theorem Tracks.flush (h : Tracks I last m) :
    Tracks I last m.flush ∧
      ∀ b, pending b m.flush = pending b m + if m.tstamp = some b then 1 else 0 := by
  rcases last with _ | p
  · obtain ⟨-, ht, -⟩ := h.fresh rfl
    have : m.flush = m := by simp [flush, ht]
    simp [this, h, ht]
  · obtain ⟨hp, hd, ht⟩ := h.bound p rfl
    rw [flush_of_some ht hd]
    refine ⟨⟨nofun, fun p' hp' => ?_, ?_, fun c hc e he => ?_⟩, fun b => ?_⟩
    · cases hp'
      exact ⟨hp, hd, ht⟩
    · simp only [List.map_append, List.map_singleton, List.pairwise_append, List.pairwise_singleton,
        List.mem_singleton, forall_eq, List.mem_map]
      exact ⟨h.sorted, trivial, fun _ ⟨e, he, hx⟩ => hx ▸ h.le_current _ ht e he⟩
    · obtain rfl : p.bucket I = c := Option.some.inj (ht.symm.trans hc)
      rcases List.mem_append.1 he with he | he
      · exact h.le_current _ ht e he
      · rw [List.mem_singleton.1 he]
    · simp only [pending, ht, List.map_append, List.map_singleton, List.count_append,
        List.count_singleton, beq_iff_eq, Option.some.injEq]

omit [Zero V] in
theorem pending_accumulate (b : ℕ) (m : RollupManager V) (v : V) :
    pending b (m.accumulate v) = pending b m := rfl

omit [LinearOrder V] [Add V] in
theorem pending_pass {m' : RollupManager V} {c b' : ℕ} {gap : List (RollupPoint V)}
    {slot : RollupPoint V} (hslot : slot.tstamp = c) (hcb : c < b') (hgap : GapOK c b' gap)
    (ht : m.tstamp = some c) (hle : ∀ e ∈ m.emitted, e.tstamp ≤ c)
    (he : m'.emitted = m.emitted ++ slot :: gap) (ht' : m'.tstamp = some b') (b : ℕ) :
    pending b m' ≤ Max.max (pending b m) 1 := by
  have hnodup : ((gap.map RollupPoint.tstamp).count b) ≤ 1 :=
    List.nodup_iff_count_le_one.1 (hgap.sorted.imp ne_of_lt) b
  have hout : b ≤ c ∨ b' ≤ b → (gap.map RollupPoint.tstamp).count b = 0 := fun hb =>
    List.count_eq_zero.2 fun hm => by
      obtain ⟨e, he, rfl⟩ := List.mem_map.1 hm
      have := hgap.range e he
      omega
  have hold : c < b → (m.emitted.map RollupPoint.tstamp).count b = 0 := fun hb =>
    List.count_eq_zero.2 fun hm => by
      obtain ⟨e, he, rfl⟩ := List.mem_map.1 hm
      have := hle e he
      omega
  simp only [pending, he, ht, ht', List.map_append, List.map_cons, List.count_append,
    List.count_cons, hslot, beq_iff_eq, Option.some.injEq]
  split_ifs <;> omega

theorem addDataPoint_of_none (hd : m.tsdb = none) (ht : m.tstamp = none) (T : Tsdb) (t : ℕ)
    (v : V) :
    m.addDataPoint T t v =
      accumulate { m with tsdb := some T, tstamp := some (t - t % T.rollupInterval) } v := by
  simp [addDataPoint, hd, ht]

theorem addDataPoint_pass (hd : m.tsdb = some p.tsdb) (ht : m.tstamp = some (p.bucket I))
    (hpos : 0 < I) (hp : p.Inside I) (hq : q.Inside I) (hf : p.Follows q)
    (hb : q.bucket I ≠ p.bucket I) :
    ∃ gap, GapOK (p.bucket I) (q.bucket I) gap ∧
      (m.addDataPoint q.tsdb q.tstamp q.value).emitted =
        m.emitted ++ ⟨p.tsdb, p.bucket I, m.cnt, m.min, m.max, m.sum⟩ :: gap ∧
      (m.addDataPoint q.tsdb q.tstamp q.value).tsdb = some q.tsdb ∧
      (m.addDataPoint q.tsdb q.tstamp q.value).tstamp = some (q.bucket I) := by
  have hc := Point.dvd_bucket I p
  have hqb := Point.dvd_bucket I q
  have hlt : p.bucket I < q.bucket I := (Point.bucket_mono hpos hf.1).lt_of_ne (Ne.symm hb)
  by_cases hT : q.tsdb = p.tsdb
  · have hqT : q.bucket I < p.tsdb.toSec := hT ▸ (q.bucket_le I).trans_lt hq.2.2.2.2
    rw [addDataPoint_within hd ht hp.1 hpos hc hlt hqT]
    exact ⟨_, gapOK_within hpos hc hqb hlt, rfl, by simp [hd, hT], rfl⟩
  · have hTT := hf.2.resolve_left hT
    have hcT : p.bucket I < p.tsdb.toSec := (p.bucket_le I).trans_lt hp.2.2.2.2
    rw [addDataPoint_cross hd ht hp.1 hq.1 hpos hc hp.2.2.1 hq.2.1 hcT
      (Point.toSec_le_bucket hpos hp hq hTT) (Point.fromSec_le_bucket hpos hq)]
    exact ⟨_, gapOK_cross hpos hc hp.2.2.1 hq.2.1 hqb hcT hTT (Point.fromSec_le_bucket hpos hq),
      rfl, rfl, rfl⟩

theorem Tracks.add (h : Tracks I last m) (hpos : 0 < I) (hq : q.Inside I)
    (hf : ∀ p, last = some p → p.Follows q) :
    Tracks I (some q) (m.addDataPoint q.tsdb q.tstamp q.value) ∧
      ∀ b, pending b (m.addDataPoint q.tsdb q.tstamp q.value) ≤ Max.max (pending b m) 1 := by
  rcases last with _ | p
  · obtain ⟨hd, ht, he⟩ := h.fresh rfl
    rw [addDataPoint_of_none hd ht, hq.1]
    refine ⟨⟨nofun, fun p' hp' => ?_, by simp [he], by simp [he]⟩, fun b => ?_⟩
    · cases hp'
      exact ⟨hq, rfl, rfl⟩
    · simp only [pending_accumulate, pending, he]
      split_ifs <;> simp
  · obtain ⟨hp, hd, ht⟩ := h.bound p rfl
    have hf := hf p rfl
    by_cases hb : q.bucket I = p.bucket I
    · have hT : q.tsdb = p.tsdb := hf.2.resolve_right fun hTT => by
        have := Point.toSec_le_bucket hpos hp hq hTT
        have := (p.bucket_le I).trans_lt hp.2.2.2.2
        omega
      rw [addDataPoint_same hd ht (hp.1 ▸ hb)]
      refine ⟨⟨nofun, fun p' hp' => ?_, h.sorted, h.le_current⟩, fun b => ?_⟩
      · cases hp'
        exact ⟨hq, hT ▸ hd, hb ▸ ht⟩
      · rw [pending_accumulate]
        exact le_max_left _ _
    · obtain ⟨gap, hgap, he, hd', ht'⟩ := addDataPoint_pass hd ht hpos hp hq hf hb
      have hlt : p.bucket I < q.bucket I := (Point.bucket_mono hpos hf.1).lt_of_ne (Ne.symm hb)
      have hle := h.le_current _ ht
      refine ⟨⟨nofun, fun p' hp' => ?_, ?_, fun c hc e hem => ?_⟩,
        pending_pass rfl hlt hgap ht hle he ht'⟩
      · cases hp'
        exact ⟨hq, hd', ht'⟩
      · rw [he, List.map_append, List.map_cons, List.pairwise_append]
        refine ⟨h.sorted, hgap.pairwise_cons.imp le_of_lt, fun x hx y hy => ?_⟩
        obtain ⟨e, he, rfl⟩ := List.mem_map.1 hx
        exact (hle e he).trans (hgap.le_of_mem hy)
      · obtain rfl : q.bucket I = c := Option.some.inj (ht'.symm.trans hc)
        rw [he] at hem
        rcases List.mem_append.1 hem with hem | hem
        · exact (hle e hem).trans hlt.le
        · rcases List.mem_cons.1 hem with rfl | hem
          · exact hlt.le
          · exact (hgap.range e hem).2.le

omit [LinearOrder V] [Zero V] [Add V] in
theorem InOrder.tail {x : Point V} {xs : List (Point V)} (h : InOrder I (x :: xs)) :
    InOrder I xs :=
  ⟨h.pos, fun y hy => h.inside y (List.mem_cons_of_mem x hy), h.chain.tail⟩

theorem Tracks.run (h : Tracks I last m) (ops : List (Op V))
    (hops : InOrder I (last.toList ++ ops.filterMap Op.point?)) {k : ℕ → ℕ}
    (hk : ∀ b, pending b m ≤ 1 + k b) :
    (∃ last', Tracks I last' (run m ops)) ∧
      ∀ b, pending b (run m ops) ≤ 1 + k b + flushesAt b m ops := by
  induction ops generalizing last m k with
  | nil => exact ⟨⟨last, h⟩, fun b => by simpa [run, flushesAt] using hk b⟩
  | cons op ops ih =>
    cases op with
    | add T t v =>
      simp only [List.filterMap_cons, Op.point?] at hops
      have hq := hops.inside ⟨T, t, v⟩ (by simp)
      have hf : ∀ p, last = some p → p.Follows ⟨T, t, v⟩ := by
        rintro p rfl
        exact (List.chain'_cons.1 hops.chain).1
      have hrest : InOrder I ((some (⟨T, t, v⟩ : Point V)).toList ++ ops.filterMap Op.point?) := by
        rcases last with _ | p
        · exact hops
        · exact hops.tail
      obtain ⟨h', hp⟩ := h.add hops.pos hq hf
      simpa [run, flushesAt, step] using
        ih h' hrest fun b => (hp b).trans (max_le (hk b) (by omega))
    | flush =>
      obtain ⟨h', hp⟩ := h.flush
      have := ih (k := fun b => k b + if m.tstamp = some b then 1 else 0) h' (by simpa using hops)
        fun b => by rw [hp b]; have := hk b; dsimp only; omega
      simpa [run, flushesAt, step, Nat.add_assoc] using this

end Run

/-- The rollup law under explicit flushes. -/
theorem buckets_repeat_only_by_flush [LinearOrder V] [Zero V] [Add V] (I : ℕ)
    (ops : List (Op V)) (hops : InOrder I (ops.filterMap Op.point?)) :
    ((run init ops).emitted.map RollupPoint.tstamp).Sorted (· ≤ ·) ∧
      ∀ b, ((run init ops).emitted.map RollupPoint.tstamp).count b ≤ 1 + flushesAt b init ops := by
  have h0 : Tracks I none (init : RollupManager V) :=
    ⟨fun _ => ⟨rfl, rfl, rfl⟩, nofun, List.Pairwise.nil, by simp [init]⟩
  obtain ⟨⟨last, h⟩, hp⟩ := h0.run ops (by simpa using hops) (k := fun _ => 0)
    fun b => by simp [pending, init]
  refine ⟨h.sorted, fun b => ?_⟩
  have := hp b
  simp only [pending] at this
  omega

theorem buckets_repeat_after_one_flush :
    let T : Tsdb := ⟨0, 100, 10⟩
    let ops : List (Op ℤ) := [.add T 0 1, .flush, .add T 15 2]
    InOrder 10 (ops.filterMap Op.point?) ∧
      ((run init ops).emitted.map RollupPoint.tstamp).Sorted (· ≤ ·) ∧
      ∀ b, ((run init ops).emitted.map RollupPoint.tstamp).count b ≤ 1 + flushesAt b init ops :=
  have h : InOrder 10 (([.add ⟨0, 100, 10⟩ 0 1, .flush, .add ⟨0, 100, 10⟩ 15 2] :
      List (Op ℤ)).filterMap Op.point?) :=
    ⟨by decide, by decide, by simp [Point.Follows, Op.point?]⟩
  ⟨h, buckets_repeat_only_by_flush 10 _ h⟩

/-- A point, an explicit flush, and a point in the next bucket hand bucket 0 out twice. -/
theorem flush_then_pass_repeats_bucket :
    let T : Tsdb := ⟨0, 100, 10⟩
    let ops : List (Op ℤ) := [.add T 0 1, .flush, .add T 15 2]
    InOrder 10 (ops.filterMap Op.point?) ∧
      (run init ops).emitted = [⟨T, 0, 1, 0, 1, 1⟩, ⟨T, 0, 0, 0, 0, 0⟩] :=
  ⟨⟨by decide, by decide, by simp [Point.Follows, Op.point?]⟩, by decide⟩

end RollupManager

end TickTock
