import Mathlib.Algebra.Ring.Int.Defs
import Mathlib.Data.List.Chain
import TickTock.Rollup.Steps

/-! # The bucketing law

Fed in-order points, the manager hands every Tsdb one aggregate per bucket, in order and
without gap, each the fold of the accumulator update over its bucket's values. -/

namespace TickTock

def RollupPoint.acc {V : Type} (e : RollupPoint V) : ℕ × V × V × V :=
  (e.cnt, e.min, e.max, e.sum)

namespace RollupManager

/-- A data point as `add_data_point` receives it, with the Tsdb it is passed with. -/
structure Point (V : Type) where
  tsdb : Tsdb
  tstamp : ℕ
  value : V
  deriving DecidableEq, Repr

namespace Point

variable {V : Type}

def op (p : Point V) : Op V := .add p.tsdb p.tstamp p.value

def bucket (I : ℕ) (p : Point V) : ℕ := p.tstamp - p.tstamp % I

def Inside (I : ℕ) (p : Point V) : Prop :=
  p.tsdb.rollupInterval = I ∧ I ∣ p.tsdb.fromSec ∧ I ∣ p.tsdb.toSec ∧
    p.tsdb.fromSec ≤ p.tstamp ∧ p.tstamp < p.tsdb.toSec

instance (I : ℕ) (p : Point V) : Decidable (p.Inside I) := inferInstanceAs (Decidable (_ ∧ _))

def Follows (p q : Point V) : Prop :=
  p.tstamp ≤ q.tstamp ∧ (q.tsdb = p.tsdb ∨ p.tsdb.toSec ≤ q.tsdb.fromSec)

instance : DecidableRel (Follows (V := V)) := fun _ _ => inferInstanceAs (Decidable (_ ∧ _))

end Point

variable {V : Type}

/-- The precondition of the bucketing law. -/
structure InOrder (I : ℕ) (pts : List (Point V)) : Prop where
  pos : 0 < I
  inside : ∀ p ∈ pts, p.Inside I
  chain : pts.Chain' Point.Follows

theorem InOrder.of_append {I : ℕ} {pts qs : List (Point V)} (h : InOrder I (pts ++ qs)) :
    InOrder I pts :=
  ⟨h.pos, fun x hx => h.inside x (List.mem_append_left _ hx), h.chain.left_of_append⟩

def bucketValues (I : ℕ) (pts : List (Point V)) (b : ℕ) : List V :=
  (pts.filter fun p => p.bucket I = b).map Point.value

/-- `lo_T`: the first point's bucket for the first point's Tsdb, the start of any other. -/
def lowBucket (I : ℕ) (pts : List (Point V)) (T : Tsdb) : ℕ :=
  match pts.head? with
  | some p => if p.tsdb = T then p.bucket I else T.fromSec
  | none => T.fromSec

/-- `hi_T`: the last point's bucket for the last point's Tsdb, the end of any other. -/
def highBucket (I : ℕ) (pts : List (Point V)) (T : Tsdb) : ℕ :=
  match pts.getLast? with
  | some p => if p.tsdb = T then p.bucket I else T.toSec
  | none => T.toSec

def acc (m : RollupManager V) : ℕ × V × V × V := (m.cnt, m.min, m.max, m.sum)

section Aggregate

variable [LinearOrder V] [Zero V] [Add V]

def aggregate (vs : List V) : ℕ × V × V × V := (vs.foldl accumulate init).acc

omit [Zero V] in
theorem acc_accumulate_congr {m m' : RollupManager V} (h : m.acc = m'.acc) (v : V) :
    (m.accumulate v).acc = (m'.accumulate v).acc := by
  simp only [acc, Prod.mk.injEq] at h ⊢
  simp [accumulate, h]

theorem acc_accumulate_of_acc {m : RollupManager V} {vs : List V} (h : m.acc = aggregate vs)
    (v : V) : (m.accumulate v).acc = aggregate (vs ++ [v]) := by
  rw [aggregate, List.foldl_append, List.foldl_cons, List.foldl_nil]
  exact acc_accumulate_congr h v

/-- With the accumulators seeded with `0` and `max` taken against the updated `min`, a bucket's
aggregate has min the least value or `0`, and max the last value. -/
theorem aggregate_eq (vs : List V) :
    aggregate vs =
      (vs.length % 2 ^ 32, vs.foldl Min.min 0, vs.getLastD 0, vs.foldl (· + ·) 0) := by
  induction vs using List.reverseRecOn with
  | nil => rfl
  | append_singleton vs v ih =>
    rw [aggregate, List.foldl_append, List.foldl_cons, List.foldl_nil]
    simp only [aggregate, acc, Prod.mk.injEq] at ih
    simp [acc, accumulate, ih, Nat.add_mod]

end Aggregate

/-! ### Buckets and the law's bounds -/

theorem le_sub_mod_of_dvd {I a t : ℕ} (hI : 0 < I) (ha : I ∣ a) (h : a ≤ t) :
    a ≤ t - t % I := by
  obtain ⟨k, rfl⟩ := ha
  have := Nat.mod_add_div t I
  have : k ≤ t / I := (Nat.le_div_iff_mul_le hI).2 (by rw [Nat.mul_comm]; exact h)
  have := Nat.mul_le_mul_left I this
  omega

namespace Point

variable {I : ℕ} {p q : Point V}

theorem bucket_le (I : ℕ) (p : Point V) : p.bucket I ≤ p.tstamp := Nat.sub_le _ _

theorem dvd_bucket (I : ℕ) (p : Point V) : I ∣ p.bucket I := Nat.dvd_sub_mod _

theorem bucket_mono (hI : 0 < I) (h : p.tstamp ≤ q.tstamp) : p.bucket I ≤ q.bucket I :=
  le_sub_mod_of_dvd hI (dvd_bucket I p) ((bucket_le I p).trans h)

theorem fromSec_le_bucket (hI : 0 < I) (hp : p.Inside I) : p.tsdb.fromSec ≤ p.bucket I :=
  le_sub_mod_of_dvd hI hp.2.1 hp.2.2.2.1

theorem toSec_le_bucket (hI : 0 < I) (hp : p.Inside I) (hq : q.Inside I)
    (h : p.tsdb.toSec ≤ q.tsdb.fromSec) : p.tsdb.toSec ≤ q.bucket I :=
  le_sub_mod_of_dvd hI hp.2.2.1 (h.trans hq.2.2.2.1)

end Point

variable {I : ℕ} {pts : List (Point V)} {p q : Point V} {T : Tsdb}

theorem bucketValues_append_singleton (b : ℕ) :
    bucketValues I (pts ++ [q]) b =
      bucketValues I pts b ++ if q.bucket I = b then [q.value] else [] := by
  by_cases h : q.bucket I = b <;> simp [bucketValues, h]

theorem bucketValues_eq_nil {b : ℕ} (h : ∀ x ∈ pts, x.bucket I < b) :
    bucketValues I pts b = [] := by
  simp only [bucketValues, List.map_eq_nil_iff, List.filter_eq_nil_iff, decide_eq_true_eq]
  exact fun x hx => (h x hx).ne

theorem lowBucket_append (hne : pts ≠ []) (qs : List (Point V)) :
    lowBucket I (pts ++ qs) T = lowBucket I pts T := by
  obtain ⟨x, xs, rfl⟩ := List.exists_cons_of_ne_nil hne
  rfl

theorem lowBucket_of_forall_ne (h : ∀ x ∈ pts, x.tsdb ≠ T) :
    lowBucket I pts T = T.fromSec := by
  cases pts with
  | nil => rfl
  | cons x xs => simp [lowBucket, h x (List.mem_cons_self _ _)]

theorem add_le_of_dvd_of_lt {c b : ℕ} (hc : I ∣ c) (hb : I ∣ b) (h : c < b) : c + I ≤ b := by
  obtain ⟨j, rfl⟩ := hc
  obtain ⟨k, rfl⟩ := hb
  have hI : 0 < I := Nat.pos_of_ne_zero (by rintro rfl; simp at h)
  rw [← Nat.mul_succ]
  exact Nat.mul_le_mul_left I ((Nat.mul_lt_mul_left hI).1 h)

theorem exists_mem_append_iff {α : Type} {l₁ l₂ : List α} {P : α → Prop} :
    (∃ e ∈ l₁ ++ l₂, P e) ↔ (∃ e ∈ l₁, P e) ∨ ∃ e ∈ l₂, P e := by
  simp only [List.mem_append, or_and_right, exists_or]

theorem exists_tsdb_snoc :
    (∃ x ∈ pts ++ [q], x.tsdb = T) ↔ (∃ x ∈ pts, x.tsdb = T) ∨ q.tsdb = T := by
  rw [exists_mem_append_iff]
  simp

theorem highBucket_of_getLast (h : pts.getLast? = some p) :
    highBucket I pts T = if p.tsdb = T then p.bucket I else T.toSec := by
  simp [highBucket, h]

theorem highBucket_snoc :
    highBucket I (pts ++ [q]) T = if q.tsdb = T then q.bucket I else T.toSec :=
  highBucket_of_getLast (List.getLast?_concat _)

/-! ### What the gap-filling loops hand out -/

section Keys

variable [Zero V] {T'' : Tsdb} {b : ℕ}

theorem exists_mem_blanks {lo hi : ℕ} (hI : 0 < I) (hlo : I ∣ lo) (hhi : I ∣ hi)
    (hle : lo ≤ hi) :
    (∃ e ∈ (blanks T I lo hi : List (RollupPoint V)), e.tsdb = T'' ∧ e.tstamp = b) ↔
      T = T'' ∧ I ∣ b ∧ lo ≤ b ∧ b < hi := by
  constructor
  · rintro ⟨e, he, rfl, rfl⟩
    rw [mem_blanks hI hlo hhi hle] at he
    exact ⟨(congrArg RollupPoint.tsdb he.2).symm, he.1⟩
  · rintro ⟨rfl, h⟩
    exact ⟨⟨T, b, 0, 0, 0, 0⟩, (mem_blanks hI hlo hhi hle).2 ⟨h, rfl⟩, rfl, rfl⟩

theorem exists_mem_slots {c hi cnt : ℕ} {mn mx sm : V} (hI : 0 < I) (hc : I ∣ c)
    (hhi : I ∣ hi) (hlt : c < hi) :
    (∃ e ∈ (⟨T, c, cnt, mn, mx, sm⟩ :: blanks T I (c + I) hi : List (RollupPoint V)),
        e.tsdb = T'' ∧ e.tstamp = b) ↔ T = T'' ∧ I ∣ b ∧ c ≤ b ∧ b < hi := by
  have hcI := add_le_of_dvd_of_lt hc hhi hlt
  simp only [List.mem_cons, exists_eq_or_imp]
  rw [exists_mem_blanks hI (Nat.dvd_add hc (Nat.dvd_refl I)) hhi hcI]
  constructor
  · rintro (⟨rfl, rfl⟩ | ⟨rfl, h, h1, h2⟩)
    · exact ⟨rfl, hc, le_rfl, hlt⟩
    · exact ⟨rfl, h, by omega, h2⟩
  · rintro ⟨rfl, h, h1, h2⟩
    rcases h1.eq_or_lt with rfl | h1
    · exact .inl ⟨rfl, rfl⟩
    · exact .inr ⟨rfl, h, add_le_of_dvd_of_lt hc h h1, h2⟩

/-- A gap handed out when passing from bucket `c` to bucket `b`. -/
structure GapOK (c b : ℕ) (gap : List (RollupPoint V)) : Prop where
  zero : ∀ e ∈ gap, e.acc = (0, 0, 0, 0)
  range : ∀ e ∈ gap, c < e.tstamp ∧ e.tstamp < b
  sorted : (gap.map RollupPoint.tstamp).Pairwise (· < ·)

theorem GapOK.pairwise_cons {c : ℕ} {gap : List (RollupPoint V)} (hgap : GapOK c b gap) :
    (c :: gap.map RollupPoint.tstamp).Pairwise (· < ·) := by
  refine List.pairwise_cons.2 ⟨fun x hx => ?_, hgap.sorted⟩
  obtain ⟨e, he, rfl⟩ := List.mem_map.1 hx
  exact (hgap.range e he).1

theorem GapOK.le_of_mem {c y : ℕ} {gap : List (RollupPoint V)} (hgap : GapOK c b gap)
    (hy : y ∈ c :: gap.map RollupPoint.tstamp) : c ≤ y := by
  rcases List.mem_cons.1 hy with rfl | hy
  · exact le_rfl
  · obtain ⟨e, he, rfl⟩ := List.mem_map.1 hy
    exact (hgap.range e he).1.le

theorem gapOK_within {c : ℕ} (hpos : 0 < I) (hc : I ∣ c) (hb : I ∣ b) (hcb : c < b) :
    GapOK c b (blanks T I (c + I) b : List (RollupPoint V)) := by
  have hmem := fun {e : RollupPoint V} (he : e ∈ blanks T I (c + I) b) =>
    (mem_blanks hpos (Nat.dvd_add hc (Nat.dvd_refl I)) hb (add_le_of_dvd_of_lt hc hb hcb)).1 he
  refine ⟨fun e he => by rw [(hmem he).2]; rfl, fun e he => ?_, pairwise_blanks _ hpos _ _⟩
  have := (hmem he).1
  omega

theorem gapOK_cross {c : ℕ} (hpos : 0 < I) (hc : I ∣ c) (hto : I ∣ T.toSec)
    (hfrom : I ∣ T''.fromSec) (hb : I ∣ b) (hcT : c < T.toSec) (hTT : T.toSec ≤ T''.fromSec)
    (hfb : T''.fromSec ≤ b) :
    GapOK c b
      (blanks T I (c + I) T.toSec ++ blanks T'' I T''.fromSec b : List (RollupPoint V)) := by
  have hA := fun {e : RollupPoint V} (he : e ∈ blanks T I (c + I) T.toSec) =>
    (mem_blanks hpos (Nat.dvd_add hc (Nat.dvd_refl I)) hto (add_le_of_dvd_of_lt hc hto hcT)).1 he
  have hB := fun {e : RollupPoint V} (he : e ∈ blanks T'' I T''.fromSec b) =>
    (mem_blanks hpos hfrom hb hfb).1 he
  refine ⟨fun e he => ?_, fun e he => ?_, ?_⟩
  · rcases List.mem_append.1 he with he | he
    · rw [(hA he).2]; rfl
    · rw [(hB he).2]; rfl
  · rcases List.mem_append.1 he with he | he
    · have := (hA he).1
      omega
    · have := (hB he).1
      omega
  · rw [List.map_append, List.pairwise_append]
    refine ⟨pairwise_blanks _ hpos _ _, pairwise_blanks _ hpos _ _, fun x hx y hy => ?_⟩
    obtain ⟨e, he, rfl⟩ := List.mem_map.1 hx
    obtain ⟨e', he', rfl⟩ := List.mem_map.1 hy
    have := (hA he).1
    have := (hB he').1
    omega

end Keys

/-! ### The invariant of a run -/

section Law

variable [LinearOrder V] [Zero V] [Add V]

/-- What the manager holds after the in-order points `pts`, the last of which is `p`. -/
structure Law (I : ℕ) (pts : List (Point V)) (p : Point V) (m : RollupManager V) : Prop where
  last : pts.getLast? = some p
  le_last : ∀ x ∈ pts, x.tstamp ≤ p.tstamp
  tsdb : m.tsdb = some p.tsdb
  tstamp : m.tstamp = some (p.bucket I)
  current : m.acc = aggregate (bucketValues I pts (p.bucket I))
  sorted : (m.emitted.map RollupPoint.tstamp).Pairwise (· < ·)
  before : ∀ e ∈ m.emitted, e.tstamp < p.bucket I
  keys : ∀ T b, (∃ e ∈ m.emitted, e.tsdb = T ∧ e.tstamp = b) ↔
    (∃ x ∈ pts, x.tsdb = T) ∧ I ∣ b ∧ lowBucket I pts T ≤ b ∧ b < highBucket I pts T
  aggregates : ∀ e ∈ m.emitted, e.acc = aggregate (bucketValues I pts e.tstamp)

theorem Law.bucket_le (h : Law I pts p m) (hpos : 0 < I) {x : Point V} (hx : x ∈ pts) :
    x.bucket I ≤ p.bucket I :=
  Point.bucket_mono hpos (h.le_last x hx)

theorem Law.mem_last (h : Law I pts p m) : p ∈ pts := List.mem_of_getLast?_eq_some h.last

theorem Law.lowBucket_snoc (h : Law I pts p m) : lowBucket I (pts ++ [q]) T = lowBucket I pts T :=
  lowBucket_append (List.ne_nil_of_mem h.mem_last) _

theorem Law.le_last_snoc (h : Law I pts p m) (hpq : p.tstamp ≤ q.tstamp) :
    ∀ x ∈ pts ++ [q], x.tstamp ≤ q.tstamp := by
  simp only [List.mem_append, List.mem_singleton]
  rintro x (hx | rfl)
  · exact (h.le_last x hx).trans hpq
  · exact le_rfl

theorem law_first (hp : p.Inside I) :
    Law I [p] p (init.addDataPoint p.tsdb p.tstamp p.value) := by
  obtain ⟨hI, -⟩ := hp
  have hm : init.addDataPoint p.tsdb p.tstamp p.value =
      ({ (init : RollupManager V) with tsdb := some p.tsdb, tstamp := some (p.bucket I) }).accumulate
        p.value := by
    simp [addDataPoint, init, Point.bucket, hI]
  rw [hm]
  refine ⟨rfl, by simp, rfl, rfl, ?_, by simp [init], by simp [init], fun T b => ?_, by simp [init]⟩
  · simp [bucketValues, aggregate, acc, accumulate, init]
  · simp only [init, accumulate_emitted, List.not_mem_nil, false_and, exists_false,
      List.mem_singleton, exists_eq_left, lowBucket, List.head?_cons, highBucket,
      List.getLast?_singleton, false_iff, not_and, not_lt]
    rintro rfl - h
    simpa using h

/-- Passing to a later bucket; the keys of the result are the case's own business. -/
theorem Law.pass {m m' : RollupManager V} (h : Law I pts p m) (hpos : 0 < I)
    (hpq : p.tstamp ≤ q.tstamp) (hb : p.bucket I < q.bucket I) {gap : List (RollupPoint V)}
    (hgap : GapOK (p.bucket I) (q.bucket I) gap)
    (he : m'.emitted = m.emitted ++ ⟨p.tsdb, p.bucket I, m.cnt, m.min, m.max, m.sum⟩ :: gap)
    (hkeys : ∀ T b, (∃ e ∈ m'.emitted, e.tsdb = T ∧ e.tstamp = b) ↔
      (∃ x ∈ pts ++ [q], x.tsdb = T) ∧ I ∣ b ∧ lowBucket I (pts ++ [q]) T ≤ b ∧
        b < highBucket I (pts ++ [q]) T)
    (hd : m'.tsdb = some q.tsdb) (ht : m'.tstamp = some (q.bucket I))
    (hacc : m'.acc = aggregate [q.value]) :
    Law I (pts ++ [q]) q m' := by
  have hnil : ∀ b, p.bucket I < b → bucketValues I pts b = [] := fun b hb =>
    bucketValues_eq_nil fun x hx => (h.bucket_le hpos hx).trans_lt hb
  have hbefore : ∀ e ∈ m'.emitted, e.tstamp < q.bucket I := by
    simp only [he, List.mem_append, List.mem_cons]
    rintro e (he | rfl | he)
    · exact (h.before e he).trans hb
    · exact hb
    · exact (hgap.range e he).2
  refine ⟨List.getLast?_concat _, h.le_last_snoc hpq, hd, ht, ?_, ?_, hbefore, hkeys, ?_⟩
  · simp [bucketValues_append_singleton, hnil _ hb, hacc]
  · rw [he, List.map_append, List.map_cons, List.pairwise_append]
    refine ⟨h.sorted, hgap.pairwise_cons, fun x hx y hy => ?_⟩
    obtain ⟨e, he, rfl⟩ := List.mem_map.1 hx
    exact (h.before e he).trans_le (hgap.le_of_mem hy)
  · intro e hem
    rw [bucketValues_append_singleton, if_neg (hbefore e hem).ne', List.append_nil]
    simp only [he, List.mem_append, List.mem_cons] at hem
    rcases hem with hem | rfl | hem
    · exact h.aggregates e hem
    · exact h.current
    · rw [hgap.zero e hem, hnil _ (hgap.range e hem).1]
      rfl

theorem Law.lowBucket_le (h : Law I pts p m) (hpos : 0 < I) (hp : p.Inside I) :
    lowBucket I pts p.tsdb ≤ p.bucket I := by
  unfold lowBucket
  split
  · split
    · exact h.bucket_le hpos (List.mem_of_mem_head? ‹_›)
    · exact Point.fromSec_le_bucket hpos hp
  · exact Point.fromSec_le_bucket hpos hp

theorem Law.same (h : Law I pts p m) (hp : p.Inside I) (hpq : p.tstamp ≤ q.tstamp)
    (hT : q.tsdb = p.tsdb) (hb : q.bucket I = p.bucket I) :
    Law I (pts ++ [q]) q (m.addDataPoint q.tsdb q.tstamp q.value) := by
  rw [addDataPoint_same h.tsdb h.tstamp (hp.1 ▸ hb)]
  have hmem : ∃ x ∈ pts, x.tsdb = q.tsdb := ⟨p, h.mem_last, hT.symm⟩
  refine ⟨List.getLast?_concat _, h.le_last_snoc hpq, by simp [h.tsdb, hT], by simp [h.tstamp, hb],
    ?_, h.sorted, fun e he => hb ▸ h.before e he, fun T b => ?_, fun e he => ?_⟩
  · rw [bucketValues_append_singleton, if_pos rfl, hb]
    exact acc_accumulate_of_acc h.current _
  · rw [accumulate_emitted, h.keys, exists_tsdb_snoc, or_iff_left_of_imp (· ▸ hmem),
      h.lowBucket_snoc, highBucket_snoc, highBucket_of_getLast h.last, hT, hb]
  · rw [bucketValues_append_singleton, if_neg (hb ▸ h.before e he).ne', List.append_nil]
    exact h.aggregates e he

theorem Law.within (h : Law I pts p m) (hpos : 0 < I) (hp : p.Inside I) (hq : q.Inside I)
    (hpq : p.tstamp ≤ q.tstamp) (hT : q.tsdb = p.tsdb) (hb : p.bucket I < q.bucket I) :
    Law I (pts ++ [q]) q (m.addDataPoint q.tsdb q.tstamp q.value) := by
  have hc := Point.dvd_bucket I p
  have hqb := Point.dvd_bucket I q
  have hqT : q.bucket I < p.tsdb.toSec := hT ▸ (q.bucket_le I).trans_lt hq.2.2.2.2
  rw [addDataPoint_within h.tsdb h.tstamp hp.1 hpos hc hb hqT,
    show q.tstamp - q.tstamp % I = q.bucket I from rfl]
  refine h.pass hpos hpq hb (gapOK_within hpos hc hqb hb) rfl (fun T b => ?_)
    (by simp [h.tsdb, hT]) rfl rfl
  · rw [accumulate_emitted, exists_mem_append_iff, h.keys, exists_mem_slots hpos hc hqb hb,
      exists_tsdb_snoc, h.lowBucket_snoc, highBucket_snoc, highBucket_of_getLast h.last, hT]
    by_cases hT' : p.tsdb = T
    · subst hT'
      have hlow := h.lowBucket_le hpos hp
      simp only [if_true, true_or, true_and, show ∃ x ∈ pts, x.tsdb = p.tsdb from
        ⟨p, h.mem_last, rfl⟩]
      by_cases hdvd : I ∣ b <;> simp only [hdvd, true_and, false_and, or_self]
      omega
    · simp [hT']

theorem Law.cross (h : Law I pts p m) (hpos : 0 < I) (hin : ∀ x ∈ pts, x.Inside I)
    (hp : p.Inside I) (hq : q.Inside I) (hpq : p.tstamp ≤ q.tstamp) (hT : q.tsdb ≠ p.tsdb)
    (hTT : p.tsdb.toSec ≤ q.tsdb.fromSec) :
    Law I (pts ++ [q]) q (m.addDataPoint q.tsdb q.tstamp q.value) := by
  have hc := Point.dvd_bucket I p
  have hqb := Point.dvd_bucket I q
  have hto := hp.2.2.1
  have hfrom := hq.2.1
  have hcT : p.bucket I < p.tsdb.toSec := (p.bucket_le I).trans_lt hp.2.2.2.2
  have hTq : p.tsdb.toSec ≤ q.bucket I := Point.toSec_le_bucket hpos hp hq hTT
  have hfq : q.tsdb.fromSec ≤ q.bucket I := Point.fromSec_le_bucket hpos hq
  have hnot : ∀ x ∈ pts, x.tsdb ≠ q.tsdb := fun x hx hx' => by
    have := hx' ▸ (hin x hx).2.2.2.1
    have := h.le_last x hx
    have := hp.2.2.2.2
    omega
  rw [addDataPoint_cross h.tsdb h.tstamp hp.1 hq.1 hpos hc hto hfrom hcT hTq hfq,
    show q.tstamp - q.tstamp % I = q.bucket I from rfl]
  refine h.pass hpos hpq (hcT.trans_le hTq) (gapOK_cross hpos hc hto hfrom hqb hcT hTT hfq) rfl
    (fun T b => ?_) rfl rfl rfl
  rw [accumulate_emitted, exists_mem_append_iff, h.keys, ← List.cons_append,
    exists_mem_append_iff, exists_mem_slots hpos hc hto hcT, exists_mem_blanks hpos hfrom hqb hfq,
    exists_tsdb_snoc, h.lowBucket_snoc, highBucket_snoc, highBucket_of_getLast h.last]
  by_cases h1 : p.tsdb = T
  · subst h1
    have hlow := h.lowBucket_le hpos hp
    simp only [hT, if_true, if_false, true_and, false_and, or_false, true_or,
      show ∃ x ∈ pts, x.tsdb = p.tsdb from ⟨p, h.mem_last, rfl⟩]
    by_cases hdvd : I ∣ b <;> simp only [hdvd, true_and, false_and, or_self]
    omega
  · by_cases h2 : q.tsdb = T
    · subst h2
      have hno : ¬∃ x ∈ pts, x.tsdb = q.tsdb := fun ⟨x, hx, hx'⟩ => hnot x hx hx'
      simp [hno, h1, lowBucket_of_forall_ne hnot]
    · simp [h1, h2]

theorem Law.snoc (h : Law I pts p m) (hpos : 0 < I) (hin : ∀ x ∈ pts, x.Inside I)
    (hq : q.Inside I) (hf : p.Follows q) :
    Law I (pts ++ [q]) q (m.addDataPoint q.tsdb q.tstamp q.value) := by
  have hp := hin p h.mem_last
  by_cases hb : q.bucket I = p.bucket I
  · refine h.same hp hf.1 (hf.2.resolve_right fun hTT => ?_) hb
    have := Point.toSec_le_bucket hpos hp hq hTT
    have := (p.bucket_le I).trans_lt hp.2.2.2.2
    omega
  · have hlt : p.bucket I < q.bucket I := (Point.bucket_mono hpos hf.1).lt_of_ne (Ne.symm hb)
    by_cases hT : q.tsdb = p.tsdb
    · exact h.within hpos hp hq hf.1 hT hlt
    · exact h.cross hpos hin hp hq hf.1 hT (hf.2.resolve_left hT)

theorem law_run (hpts : InOrder I pts) (hlast : pts.getLast? = some p) :
    Law I pts p (run init (pts.map Point.op)) := by
  induction pts using List.reverseRecOn generalizing p with
  | nil => cases hlast
  | append_singleton xs q ih =>
    obtain rfl : q = p := by simpa using hlast
    have hq := hpts.inside q (List.mem_append_right _ (List.mem_singleton_self q))
    rw [List.map_append, run, List.foldl_append, List.map_singleton, List.foldl_cons,
      List.foldl_nil]
    rcases hx : xs.getLast? with _ | x
    · obtain rfl := List.getLast?_eq_none_iff.1 hx
      exact law_first hq
    · have hf : x.Follows q := (List.chain'_append.1 hpts.chain).2.2 x hx q rfl
      exact (ih hpts.of_append hx).snoc hpts.pos hpts.of_append.inside hq hf

theorem acc_of_mem_emitted (hpts : InOrder I pts) (hlast : pts.getLast? = some p)
    {e : RollupPoint V} (he : e ∈ (run init (pts.map Point.op)).emitted) :
    e.cnt = (bucketValues I pts e.tstamp).length % 2 ^ 32 ∧
      e.min = (bucketValues I pts e.tstamp).foldl Min.min 0 ∧
      e.max = (bucketValues I pts e.tstamp).getLastD 0 ∧
      e.sum = (bucketValues I pts e.tstamp).foldl (· + ·) 0 := by
  have := (law_run hpts hlast).aggregates e he
  rw [aggregate_eq] at this
  simpa only [RollupPoint.acc, Prod.mk.injEq] using this

/-! ### The law -/

/-- The bucketing law, with the count a `u32`. -/
theorem bucketing_law (I : ℕ) (pts : List (Point V)) (p : Point V) (hpts : InOrder I pts)
    (hlast : pts.getLast? = some p) :
    ((run init (pts.map Point.op)).emitted.map RollupPoint.tstamp).Sorted (· < ·) ∧
      (∀ T b, (∃ e ∈ (run init (pts.map Point.op)).emitted, e.tsdb = T ∧ e.tstamp = b) ↔
        (∃ x ∈ pts, x.tsdb = T) ∧ I ∣ b ∧ lowBucket I pts T ≤ b ∧ b < highBucket I pts T) ∧
      (∀ e ∈ (run init (pts.map Point.op)).emitted,
        e.cnt = (bucketValues I pts e.tstamp).length % 2 ^ 32 ∧
          e.sum = (bucketValues I pts e.tstamp).foldl (· + ·) 0) ∧
      (run init (pts.map Point.op)).tstamp = some (p.bucket I) ∧
      (run init (pts.map Point.op)).stepDown p.tstamp = some (p.bucket I) := by
  have h := law_run hpts hlast
  have hI := (hpts.inside p (List.mem_of_getLast?_eq_some hlast)).1
  refine ⟨h.sorted, h.keys, fun e he => ?_, h.tstamp, by simp [stepDown, h.tsdb, hI, Point.bucket]⟩
  have := acc_of_mem_emitted hpts hlast he
  exact ⟨this.1, this.2.2.2⟩

end Law

theorem bucketing_law_two_files :
    let pts : List (Point ℤ) := [⟨⟨0, 100, 10⟩, 5, 1⟩, ⟨⟨100, 200, 10⟩, 115, 2⟩]
    let p : Point ℤ := ⟨⟨100, 200, 10⟩, 115, 2⟩
    InOrder 10 pts ∧ pts.getLast? = some p ∧
      ((run init (pts.map Point.op)).emitted.map RollupPoint.tstamp).Sorted (· < ·) ∧
      (∀ T b, (∃ e ∈ (run init (pts.map Point.op)).emitted, e.tsdb = T ∧ e.tstamp = b) ↔
        (∃ x ∈ pts, x.tsdb = T) ∧ 10 ∣ b ∧ lowBucket 10 pts T ≤ b ∧ b < highBucket 10 pts T) ∧
      (∀ e ∈ (run init (pts.map Point.op)).emitted,
        e.cnt = (bucketValues 10 pts e.tstamp).length % 2 ^ 32 ∧
          e.sum = (bucketValues 10 pts e.tstamp).foldl (· + ·) 0) ∧
      (run init (pts.map Point.op)).tstamp = some (p.bucket 10) ∧
      (run init (pts.map Point.op)).stepDown p.tstamp = some (p.bucket 10) :=
  have hin : InOrder 10 [(⟨⟨0, 100, 10⟩, 5, 1⟩ : Point ℤ), ⟨⟨100, 200, 10⟩, 115, 2⟩] :=
    ⟨by decide, by decide, by simp [Point.Follows]⟩
  ⟨hin, rfl, bucketing_law 10 _ _ hin rfl⟩

section Wrap

variable [LinearOrder V] [Zero V] [Add V]

/-- `n` points in bucket 0 hand it out with the count `n` modulo `2^32`. -/
theorem count_of_replicate (n : ℕ) (hn : 0 < n) (v w : V) :
    let T : Tsdb := ⟨0, 100, 10⟩
    let pts : List (Point V) := List.replicate n ⟨T, 0, v⟩ ++ [⟨T, 10, w⟩]
    InOrder 10 pts ∧
      ∃ e ∈ (run init (pts.map Point.op)).emitted, e.tsdb = T ∧ e.tstamp = 0 ∧
        e.cnt = n % 2 ^ 32 ∧ (pts.filter fun x => x.bucket 10 = 0).length = n := by
  intro T pts
  obtain ⟨k, rfl⟩ : ∃ k, n = k + 1 := ⟨n - 1, by omega⟩
  have hfilter : pts.filter (fun x => x.bucket 10 = 0) = List.replicate (k + 1) ⟨T, 0, v⟩ := by
    simp [pts, List.filter_replicate, Point.bucket]
  have hin : InOrder 10 pts := by
    refine ⟨by decide, fun x hx => ?_, List.chain'_append.2 ⟨List.chain'_replicate_of_rel _
      (by simp [Point.Follows]), List.chain'_singleton _, fun x hx y hy => ?_⟩⟩
    · simp only [pts, List.mem_append, List.mem_replicate, List.mem_singleton] at hx
      rcases hx with ⟨-, rfl⟩ | rfl <;> simp only [Point.Inside, T] <;> decide
    · simp only [List.getLast?_replicate, List.head?_cons, Option.mem_def, Option.some.injEq,
        Nat.add_one_ne_zero, if_false] at hx hy
      subst hx hy
      simp [Point.Follows]
  have hlast : pts.getLast? = some ⟨T, 10, w⟩ := List.getLast?_concat _
  have h := law_run hin hlast
  obtain ⟨e, he, heT, he0⟩ := ((h.keys T 0).2 ⟨⟨⟨T, 10, w⟩, List.mem_of_getLast?_eq_some hlast,
    rfl⟩, Nat.dvd_zero 10, by simp [lowBucket, pts, List.replicate_succ, Point.bucket],
    by simp [highBucket, hlast, Point.bucket]⟩)
  refine ⟨hin, e, he, heT, he0, ?_, by rw [hfilter, List.length_replicate]⟩
  rw [(acc_of_mem_emitted hin hlast he).1, he0, bucketValues, hfilter, List.length_map,
    List.length_replicate]

end Wrap

theorem bucket_count_wraps :
    let T : Tsdb := ⟨0, 100, 10⟩
    let pts : List (Point ℤ) := List.replicate (2 ^ 32) ⟨T, 0, 1⟩ ++ [⟨T, 10, 1⟩]
    InOrder 10 pts ∧
      ∃ e ∈ (run init (pts.map Point.op)).emitted, e.tsdb = T ∧ e.tstamp = 0 ∧ e.cnt = 0 ∧
        (pts.filter fun x => x.bucket 10 = 0).length = 2 ^ 32 := by
  obtain ⟨hin, e, he, h1, h2, h3, h4⟩ :=
    count_of_replicate (2 ^ 32) (Nat.two_pow_pos 32) (1 : ℤ) 1
  exact ⟨hin, e, he, h1, h2, h3.trans (Nat.mod_self _), h4⟩

/-- Values `5, 3` are handed out with `min = 0` and `max = 3`; the open bucket of `7` has min 0. -/
theorem min_max_of_seeded_accumulators :
    let T : Tsdb := ⟨0, 100, 10⟩
    let pts : List (Point ℤ) := [⟨T, 0, 5⟩, ⟨T, 1, 3⟩, ⟨T, 10, 7⟩]
    (run init (pts.map Point.op)).emitted = [⟨T, 0, 2, 0, 3, 8⟩] ∧
      (run init (pts.map Point.op)).query .min = some (10, 0) ∧
      (run init (pts.map Point.op)).query .max = some (10, 7) := by
  decide

end RollupManager

end TickTock
