import TickTock.Config.Dump

/-! # The text `Config::c_str` prints

The writes of `Dump` with their texts. When the dump fits, the closing `"\n}"` lands on the
last line's `",\n"`, or, for an empty map, on the header. -/

namespace TickTock

def bytes (s : String) : List UInt8 := s.data.flatMap String.utf8EncodeChar

@[simp] theorem bytes_append (s t : String) : bytes (s ++ t) = bytes s ++ bytes t :=
  List.flatMap_append _ _ _

@[simp] theorem length_bytes (s : String) : (bytes s).length = s.utf8ByteSize :=
  String.size_toUTF8 s

/-! ### Buffers -/

def place (text : List UInt8) (pos : ℕ) (buff : ℕ → UInt8) (i : ℕ) : UInt8 :=
  if pos ≤ i ∧ i < pos + text.length then text.getD (i - pos) 0 else buff i

theorem place_of_lt {text : List UInt8} {pos : ℕ} {buff : ℕ → UInt8} {i : ℕ} (h : i < pos) :
    place text pos buff i = buff i :=
  if_neg fun h' => absurd h'.1 (Nat.not_le.2 h)

theorem place_of_le {text : List UInt8} {pos : ℕ} {buff : ℕ → UInt8} {i : ℕ} (h : pos ≤ i)
    (h' : i < pos + text.length) : place text pos buff i = text.getD (i - pos) 0 :=
  if_pos ⟨h, h'⟩

/-- A `snprintf` of `text`: its first `bound - 1` bytes and a `0`; nothing where `bound = 0`. -/
def Write.store (w : Write) (text : List UInt8) (buff : ℕ → UInt8) : ℕ → UInt8 :=
  if w.bound = 0 then buff else place (text.take (w.bound - 1) ++ [0]) w.pos buff

def StartsWith (buff : ℕ → UInt8) (t : List UInt8) : Prop := ∀ i < t.length, buff i = t.getD i 0

def HoldsText (buff : ℕ → UInt8) (t : List UInt8) : Prop :=
  StartsWith buff t ∧ buff t.length = 0

theorem StartsWith.take {buff : ℕ → UInt8} {t : List UInt8} (h : StartsWith buff t) (k : ℕ) :
    StartsWith buff (t.take k) := fun i hi => by
  obtain ⟨hik, hit⟩ : i < k ∧ i < t.length := by simpa using hi
  simp only [h i hit, List.getD_eq_getElem?_getD, List.getElem?_take_of_lt hik]

theorem holdsText_store {buff : ℕ → UInt8} {t text : List UInt8} {w : Write}
    (ht : StartsWith buff t) (hpos : w.pos = t.length) (hroom : text.length < w.bound) :
    HoldsText (w.store text buff) (t ++ text) := by
  have e : w.store text buff = place (text ++ [0]) t.length buff := by
    rw [Write.store, if_neg (by omega), List.take_of_length_le (by omega), hpos]
  rw [e]
  refine ⟨fun i hi => ?_, ?_⟩
  · rw [List.length_append] at hi
    simp only [List.getD_eq_getElem?_getD]
    by_cases hit : i < t.length
    · rw [place_of_lt hit, ht i hit, List.getElem?_append_left hit, List.getD_eq_getElem?_getD]
    · rw [place_of_le (by omega) (by simp; omega), List.getD_eq_getElem?_getD,
        List.getElem?_append_left (by omega), List.getElem?_append_right (by omega)]
  · rw [List.length_append, place_of_le (by omega) (by simp)]
    simp

/-! ### The loop, with its texts -/

def entryText (name value : String) : List UInt8 :=
  bytes ("  \"" ++ name ++ "\": \"" ++ value ++ "\",\n")

theorem length_entryText (name value : String) :
    (entryText name value).length = entryLength name value := by
  simp only [entryText, bytes_append, List.length_append, length_bytes, entryLength]
  have : "  \"".utf8ByteSize = 3 ∧ "\": \"".utf8ByteSize = 4 ∧ "\",\n".utf8ByteSize = 3 :=
    ⟨rfl, rfl, rfl⟩
  omega

/-- The loop of `c_str`: the buffer it leaves and the offset it ends at. -/
def cStrBuffLoop (size : ℕ) : (ℕ → UInt8) → ℕ → List (String × String) → (ℕ → UInt8) × ℕ
  | buff, idx, [] => (buff, idx)
  | buff, idx, (name, value) :: es =>
    if size > idx then
      let n := entryLength name value
      let buff := Write.store ⟨idx, size - idx⟩ (entryText name value) buff
      if n ≤ 0 then (Write.store ⟨0, 1⟩ [] buff, idx)
      else cStrBuffLoop size buff (idx + n) es
    else (buff, idx)

namespace Config

def cStrBuff (c : Config) (size : ℕ) (buff : ℕ → UInt8) : ℕ → UInt8 :=
  let r := cStrBuffLoop size (Write.store ⟨0, size⟩ (bytes "\x7b\n") buff) 2 c.properties.entries
  Write.store ⟨r.2 - 2, sizeTBound size r.2⟩ (bytes "\n\x7d") r.1

end Config

theorem cStrBuffLoop_snd (size : ℕ) (buff : ℕ → UInt8) (idx : ℕ) (es : List (String × String)) :
    (cStrBuffLoop size buff idx es).2 = (Config.cStrLoop size idx es).2 := by
  induction es generalizing buff idx with
  | nil => rfl
  | cons e es ih =>
    obtain ⟨name, value⟩ := e
    rw [cStrBuffLoop, Config.cStrLoop]
    dsimp only
    split_ifs
    · rfl
    · exact ih _ _
    · rfl

theorem holdsText_cStrBuffLoop {size : ℕ} {buff : ℕ → UInt8} {t : List UInt8}
    {es : List (String × String)} (ht : HoldsText buff t)
    (hfit : t.length + (es.map fun e => entryLength e.1 e.2).sum < size) :
    HoldsText (cStrBuffLoop size buff t.length es).1
      (t ++ (es.map fun e => entryText e.1 e.2).flatten) := by
  induction es generalizing buff t with
  | nil => simpa [cStrBuffLoop] using ht
  | cons e es ih =>
    obtain ⟨name, value⟩ := e
    have hn : 10 ≤ entryLength name value := by unfold entryLength; omega
    simp only [List.map_cons, List.sum_cons, List.flatten_cons] at hfit ⊢
    have hroom : (entryText name value).length < size - t.length := by
      rw [length_entryText]; omega
    have hs := holdsText_store (w := ⟨t.length, size - t.length⟩) ht.1 rfl hroom
    have hl : (t ++ entryText name value).length = t.length + entryLength name value := by
      rw [List.length_append, length_entryText]
    rw [cStrBuffLoop, if_pos (by omega)]
    dsimp only
    rw [if_neg (by omega), ← hl, ← List.append_assoc]
    exact ih hs (by omega)

theorem length_flatten_entryText (es : List (String × String)) :
    (es.map fun e => entryText e.1 e.2).flatten.length =
      (es.map fun e => entryLength e.1 e.2).sum := by
  induction es with
  | nil => rfl
  | cons e es ih => simp only [List.map_cons, List.flatten_cons, List.length_append,
      List.sum_cons, length_entryText, ih]

theorem sizeTBound_of_le {size idx : ℕ} (h64 : size < 2 ^ 64) (h2 : 2 ≤ idx) (h : idx ≤ size) :
    sizeTBound size idx = size - idx + 2 := by
  simp only [sizeTBound]
  bv_omega

/-! ### The text of the dump -/

/-- What the dump is meant to print: a JSON object of the properties. -/
def jsonText (es : List (String × String)) : List UInt8 :=
  bytes "\x7b\n" ++
    (bytes ",\n").intercalate (es.map fun e => bytes ("  \"" ++ e.1 ++ "\": \"" ++ e.2 ++ "\"")) ++
    bytes "\n\x7d"

theorem flatten_map_append_sep {α β : Type} (f : β → List α) (sep : List α) :
    ∀ (b : β) (bs : List β),
      ((b :: bs).map fun x => f x ++ sep).flatten = sep.intercalate ((b :: bs).map f) ++ sep
  | b, [] => by simp [List.intercalate]
  | b, b' :: bs => by
    rw [List.map_cons, List.flatten_cons, flatten_map_append_sep f sep b' bs]
    simp [List.intercalate, List.intersperse_cons_cons]

theorem entryText_eq (name value : String) :
    entryText name value = bytes ("  \"" ++ name ++ "\": \"" ++ value ++ "\"") ++ bytes ",\n" := by
  simp only [entryText, bytes_append, List.append_assoc]
  rfl

theorem dumpText_eq (es : List (String × String)) :
    (bytes "\x7b\n" ++ (es.map fun e => entryText e.1 e.2).flatten).take
        ((bytes "\x7b\n" ++ (es.map fun e => entryText e.1 e.2).flatten).length - 2) ++
      bytes "\n\x7d" =
      if es = [] then bytes "\n\x7d" else jsonText es := by
  cases es with
  | nil => rfl
  | cons e es =>
    have hsep : (bytes ",\n").length = 2 := rfl
    simp only [entryText_eq, reduceCtorEq, if_false, jsonText]
    rw [flatten_map_append_sep, ← List.append_assoc, List.length_append, hsep,
      Nat.add_sub_cancel, List.take_left]

namespace Config

example : (List.range 15).map ((Config.empty.setValue "k" "v").cStrBuff 20 fun _ => 255) =
    bytes "\x7b\n  \"k\": \"v\"\n\x7d" ++ [0] := by
  decide

example : (List.range 3).map (Config.empty.cStrBuff 20 fun _ => 255) = bytes "\n\x7d" ++ [0] := by
  decide

end Config

end TickTock
