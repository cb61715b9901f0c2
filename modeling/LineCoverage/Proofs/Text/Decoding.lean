import LineCoverage.Text.Utf8
import LineCoverage.Text.Lines
import LineCoverage.Coverage.Source
import Mathlib
/-! Lossy reading keeps the lines of a byte stream.

A byte 10 is a piece of its own and reads as a line feed. Every other piece reads as
something else: a byte below `0x80` as itself, a broken piece as U+FFFD, and a scalar of
several bytes as a value of at least `0x80`, since a lead byte and its first continuation byte
already carry more. The bytes a piece takes after its first are continuation bytes, so no 10
hides inside one. Hence the text has as many line feeds as the stream has bytes 10, ends with
one exactly when the stream ends with a 10, and has as many lines as the stream's line count.
-/

set_option autoImplicit false

namespace LineCoverage.Text.Utf8

theorem pieces_cons (b : UInt8) (rest : List UInt8) :
    pieces (b :: rest) = piece b rest :: pieces (rest.drop ((piece b rest).width - 1)) := by
  rw [pieces]

/-- What a lead byte promises: at least one continuation byte, every one at least `0x80`, and
a payload that with the first continuation byte's comes to more than a line feed's. -/
theorem lead_spec {b : Nat} {l : Lead} (h : lead b = some l) :
    1 ≤ l.tail ∧ 0x80 ≤ l.lo ∧ l.hi ≤ 0xBF ∧ (1 ≤ b % 2 ^ (6 - l.tail) ∨ 0x8B ≤ l.lo) := by
  unfold lead at h
  split_ifs at h <;> (cases h; simp only [Nat.reducePow, Nat.reduceSub]; omega)

theorem continuation_high (lo hi : Nat) (low : 0x80 ≤ lo) :
    ∀ (n : Nat) (bs : List UInt8) (acc : Nat),
      ∀ x ∈ bs.take (continuation lo hi n bs acc).1, 0x80 ≤ x.toNat
  | 0, _, _ => by simp [continuation]
  | _ + 1, [], _ => by simp [continuation]
  | n + 1, b :: rest, acc => by
    have ih := continuation_high 0x80 0xBF (Nat.le_refl _) n rest (acc * 64 + b.toNat % 64)
    simp only [continuation]
    split
    · intro x mem
      rw [List.take_succ_cons, List.mem_cons] at mem
      rcases mem with rfl | later
      · omega
      · exact ih x later
    · simp

theorem le_continuation_snd (lo hi : Nat) :
    ∀ (n : Nat) (bs : List UInt8) (acc : Nat), acc ≤ (continuation lo hi n bs acc).2
  | 0, _, _ => by simp [continuation]
  | _ + 1, [], _ => by simp [continuation]
  | n + 1, b :: rest, acc => by
    have ih := le_continuation_snd 0x80 0xBF n rest (acc * 64 + b.toNat % 64)
    simp only [continuation]
    split
    · dsimp only
      -- each accepted byte multiplies what came before by 64
      have grows : acc ≤ acc * 64 + b.toNat % 64 := by omega
      exact Nat.le_trans grows ih
    · exact Nat.le_refl _

theorem continuation_first {lo hi n : Nat} {b : UInt8} {rest : List UInt8} {acc : Nat}
    (accepted : 1 ≤ (continuation lo hi (n + 1) (b :: rest) acc).1) :
    lo ≤ b.toNat ∧ b.toNat ≤ hi ∧
      acc * 64 + b.toNat % 64 ≤ (continuation lo hi (n + 1) (b :: rest) acc).2 := by
  simp only [continuation] at accepted ⊢
  split at accepted
  · rename_i range
    rw [if_pos range]
    exact ⟨range.1, range.2, le_continuation_snd 0x80 0xBF n rest _⟩
  · simp at accepted

/-- A character made from a number is a line feed only when the number is 10: an invalid
number makes a zero character. -/
theorem eq_ten_of_ofNat_eq_feed {v : Nat} (h : Char.ofNat v = '\n') : v = 10 := by
  unfold Char.ofNat at h
  split at h
  · exact congrArg Char.toNat h
  · exact absurd h (by decide)

theorem piece_char_eq_feed (b : UInt8) (rest : List UInt8) :
    (piece b rest).char = '\n' ↔ b = 10 := by
  unfold piece
  split
  case isTrue ascii =>
    constructor
    · intro feed
      exact UInt8.toNat_inj.mp (eq_ten_of_ofNat_eq_feed feed)
    · rintro rfl
      decide
  case isFalse high =>
    have other : b ≠ 10 := by
      rintro rfl
      exact high (by decide)
    simp only [other, iff_false]
    split
    · decide
    · rename_i l found
      obtain ⟨tail, low, top, payload⟩ := lead_spec found
      unfold close
      split
      · rename_i full
        simp only [Piece.char]
        intro feed
        -- a scalar of several bytes carries the lead's payload and at least one more
        generalize b.toNat % 2 ^ (6 - l.tail) = acc at payload full feed
        obtain ⟨n, more⟩ : ∃ n, l.tail = n + 1 := ⟨l.tail - 1, by omega⟩
        rw [more] at full feed
        have ten := eq_ten_of_ofNat_eq_feed feed
        cases rest with
        | nil => simp [continuation] at full
        | cons first rest =>
          obtain ⟨above, below, bound⟩ := continuation_first (by omega :
            1 ≤ (continuation l.lo l.hi (n + 1) (first :: rest) acc).1)
          omega
      · split <;> simp only [Piece.char] <;> decide

theorem high_of_mem_take (b : UInt8) (rest : List UInt8) :
    ∀ x ∈ rest.take ((piece b rest).width - 1), 0x80 ≤ x.toNat := by
  unfold piece
  split
  · simp [Piece.width]
  · split
    · simp [Piece.width]
    · rename_i l found
      rw [close_width, Nat.add_sub_cancel]
      exact continuation_high l.lo l.hi (lead_spec found).2.1 _ _ _

theorem pieces_eq_nil_iff {bs : List UInt8} : pieces bs = [] ↔ bs = [] := by
  cases bs with
  | nil => simp [pieces]
  | cons b rest => simp [pieces_cons]

theorem countP_feed_take (b : UInt8) (rest : List UInt8) :
    (rest.take ((piece b rest).width - 1)).countP (· = 10) = 0 := by
  refine List.countP_eq_zero.mpr fun x mem => ?_
  have continued := high_of_mem_take b rest x mem
  rw [decide_eq_true_eq]
  rintro rfl
  exact absurd continued (by decide)

theorem countP_feed_decode (bs : List UInt8) :
    ((pieces bs).map Piece.char).countP (· = '\n') = bs.countP (· = 10) := by
  fun_induction pieces bs with
  | case1 => simp
  | case2 b rest p ih =>
    simp only [p] at ih ⊢
    -- the piece stands for its first byte; the bytes it takes after it are no line feeds
    have taken : rest.countP (· = 10) = (rest.drop ((piece b rest).width - 1)).countP (· = 10) := by
      rw [← List.take_append_drop ((piece b rest).width - 1) rest, List.countP_append,
        List.take_append_drop, countP_feed_take, Nat.zero_add]
    rw [List.map_cons, List.countP_cons, ih, List.countP_cons, taken]
    simp only [decide_eq_true_eq, piece_char_eq_feed]

theorem not_feed_of_take_all {b r : UInt8} {rs : List UInt8}
    (ends : (r :: rs).drop ((piece b (r :: rs)).width - 1) = []) :
    b ≠ 10 ∧ (r :: rs).getLast? ≠ some 10 := by
  have whole : (r :: rs).take ((piece b (r :: rs)).width - 1) = r :: rs :=
    List.take_of_length_le (List.drop_eq_nil_iff.mp ends)
  constructor
  · -- a lone 10 takes no further bytes, so it leaves the rest
    rintro rfl
    cases ends
  · intro lastByte
    rw [← whole] at lastByte
    exact absurd (high_of_mem_take b (r :: rs) 10 (List.mem_of_getLast? lastByte)) (by decide)

theorem last_feed_decode (bs : List UInt8) :
    ((pieces bs).map Piece.char).getLast?.all (· = '\n') = bs.getLast?.all (· = 10) := by
  fun_induction pieces bs with
  | case1 => simp
  | case2 b rest p ih =>
    simp only [p] at ih ⊢
    rw [List.map_cons, List.getLast?_cons, List.getLast?_cons]
    by_cases ends : rest.drop ((piece b rest).width - 1) = []
    case pos =>
      -- the piece ends the bytes: it is the last line feed exactly when it is a lone 10
      rw [ends, pieces, List.map_nil, List.getLast?_nil, Option.getD_none, Option.all_some]
      cases rest with
      | nil => simp only [List.getLast?_nil, Option.getD_none, Option.all_some, piece_char_eq_feed]
      | cons r rs =>
        obtain ⟨other, last⟩ := not_feed_of_take_all ends
        obtain ⟨z, lastByte⟩ := Option.isSome_iff_exists.mp
          (List.getLast?_isSome.mpr (List.cons_ne_nil r rs))
        have notFeed : z ≠ 10 := fun feed => last (feed ▸ lastByte)
        rw [lastByte, Option.getD_some, Option.all_some]
        simp only [piece_char_eq_feed, other, notFeed]
    case neg =>
      -- later pieces remain, and the bytes they read end the stream
      obtain ⟨y, lastChar⟩ : ∃ y, ((pieces (rest.drop ((piece b rest).width - 1))).map
          Piece.char).getLast? = some y :=
        Option.isSome_iff_exists.mp (List.getLast?_isSome.mpr (by
          simpa only [ne_eq, List.map_eq_nil_iff, pieces_eq_nil_iff] using ends))
      obtain ⟨z, lastByte⟩ := Option.isSome_iff_exists.mp (List.getLast?_isSome.mpr ends)
      have same : rest.getLast? = some z := by
        rw [← List.take_append_drop ((piece b rest).width - 1) rest, List.getLast?_append,
          lastByte, Option.some_or]
      rw [lastChar, lastByte] at ih
      rw [lastChar, same, Option.getD_some, Option.getD_some]
      exact ih

end LineCoverage.Text.Utf8

namespace LineCoverage.Text

theorem feedPieces_ne_nil {c : Char} {rest : List Char} : feedPieces (c :: rest) ≠ [] := by
  unfold feedPieces
  split <;> split <;> simp

theorem length_feedPieces (cs : List Char) :
    (feedPieces cs).length = cs.countP (· = '\n') + if cs.getLast?.all (· = '\n') then 0 else 1 := by
  induction cs with
  | nil => rfl
  | cons c rest ih =>
    cases rest with
    | nil => by_cases feed : c = '\n' <;> simp [feedPieces, feed]
    | cons d more =>
      -- a character before a line adds a line exactly when it is a line feed
      obtain ⟨⟨p, ended⟩, others, listed⟩ := List.exists_cons_of_ne_nil (@feedPieces_ne_nil d more)
      have step : (feedPieces (c :: d :: more)).length =
          (feedPieces (d :: more)).length + if c = '\n' then 1 else 0 := by
        rw [feedPieces, listed]
        dsimp only
        split <;> simp
      rw [step, ih, List.countP_cons (a := c), List.getLast?_cons_cons]
      simp only [decide_eq_true_eq]
      omega

end LineCoverage.Text

namespace LineCoverage

theorem lineCountOf_eq (content : List UInt8) :
    lineCountOf content =
      content.countP (· = 10) + if content.getLast?.all (· = 10) then 0 else 1 := by
  unfold lineCountOf
  split <;> simp_all

theorem lines_decodeLossy (content : List UInt8) :
    (Text.lines (Text.Utf8.decodeLossy content)).length = lineCountOf content := by
  rw [Text.lines, List.length_map, Text.lineChars, List.length_map, Text.Utf8.decodeLossy,
    String.toList_ofList, Text.length_feedPieces, Text.Utf8.countP_feed_decode,
    Text.Utf8.last_feed_decode, lineCountOf_eq]

end LineCoverage
