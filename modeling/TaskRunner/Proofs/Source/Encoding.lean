import Mathlib.Data.List.TakeWhile
import TaskRunner.Proofs.Source.Reader

/-! The lines of an encoded text. No character but the line feed has the byte of a line feed in its
encoding, so cutting the bytes at that byte is cutting the text at that character, and the same goes
for the carriage return at the end of a line. -/

namespace TaskRunner

namespace Bytes

theorem ofString_ofList (chars : List Char) :
    ofString (String.ofList chars) = chars.flatMap String.utf8EncodeChar := by
  simp [ofString, List.utf8Encode]

theorem ofString_eq_flatMap (s : String) :
    ofString s = s.toList.flatMap String.utf8EncodeChar := by
  rw [← ofString_ofList, String.ofList_toList]

theorem ofString_injective {s t : String} (same : ofString s = ofString t) : s = t := by
  have read := congrArg toString? same
  rw [toString?_ofString, toString?_ofString] at read
  exact Option.some.inj read

theorem ofString_append (s t : String) : ofString (s ++ t) = ofString s ++ ofString t := by
  rw [ofString_eq_flatMap, ofString_eq_flatMap, ofString_eq_flatMap, String.toList_append,
    List.flatMap_append]

theorem mem_utf8EncodeChar_iff {byte : UInt8} (low : byte.toNat < 128) (c : Char) :
    byte ∈ String.utf8EncodeChar c ↔ c.toNat = byte.toNat := by
  have high : ∀ n, 128 ≤ n → n < 256 → byte ≠ UInt8.ofNat n := by
    rintro n above below rfl
    rw [UInt8.toNat_ofNat', Nat.mod_eq_of_lt below] at low
    omega
  unfold String.utf8EncodeChar
  dsimp only
  rw [show c.val.toNat = c.toNat from rfl]
  split
  next single =>
    rw [List.mem_singleton, ← UInt8.toNat_inj, UInt8.toNat_ofNat', Nat.mod_eq_of_lt (by omega)]
    exact eq_comm
  next several =>
    refine iff_of_false (fun member => ?_) (by omega)
    split at member
    next =>
      simp only [List.mem_cons, List.not_mem_nil, or_false] at member
      rcases member with same | same <;> exact high _ (by omega) (by omega) same
    next =>
      split at member
      next =>
        simp only [List.mem_cons, List.not_mem_nil, or_false] at member
        rcases member with same | same | same <;> exact high _ (by omega) (by omega) same
      next =>
        simp only [List.mem_cons, List.not_mem_nil, or_false] at member
        rcases member with same | same | same | same <;> exact high _ (by omega) (by omega) same

theorem mem_ofString_iff {byte : UInt8} (low : byte.toNat < 128) (s : String) :
    byte ∈ ofString s ↔ ∃ c ∈ s.toList, c.toNat = byte.toNat := by
  rw [ofString_eq_flatMap, List.mem_flatMap]
  exact exists_congr fun c => and_congr_right fun _ => mem_utf8EncodeChar_iff low c

end Bytes

namespace Source

theorem lineFeed_mem_ofString_iff (s : String) : lineFeed ∈ Bytes.ofString s ↔ '\n' ∈ s.toList := by
  rw [Bytes.mem_ofString_iff (by decide)]
  constructor
  · rintro ⟨c, member, same⟩
    have feed : c = '\n' := Char.toNat_inj.mp same
    exact feed ▸ member
  · exact fun feed => ⟨'\n', feed, rfl⟩

theorem lineFeed_not_mem_ofString {s : String} (single : '\n' ∉ s.toList) :
    lineFeed ∉ Bytes.ofString s := (lineFeed_mem_ofString_iff s).not.mpr single

theorem decode_ofString (s : String) : decode (Bytes.ofString s) = .ok s := by
  rw [decode, Bytes.toString?_ofString]

theorem splitLine_append {line : Bytes} (single : lineFeed ∉ line) (rest : Bytes) :
    splitLine (line ++ lineFeed :: rest) = (dropReturn line, rest) := by
  have inside : ∀ byte ∈ line, decide (byte ≠ lineFeed) = true := by
    intro byte member
    exact decide_eq_true fun same => single (same ▸ member)
  have cut : (line ++ lineFeed :: rest).dropWhile (· ≠ lineFeed) = lineFeed :: rest := by
    rw [List.dropWhile_append_of_pos inside, List.dropWhile_cons_of_neg (by simp)]
  rw [splitLine, cut, List.takeWhile_append_of_pos inside, List.takeWhile_cons_of_neg (by simp),
    List.append_nil]

theorem splitLine_last {line : Bytes} (single : lineFeed ∉ line) : splitLine line = (line, []) := by
  have inside : ∀ byte ∈ line, decide (byte ≠ lineFeed) = true := by
    intro byte member
    exact decide_eq_true fun same => single (same ▸ member)
  have cut : line.dropWhile (· ≠ lineFeed) = [] := List.dropWhile_eq_nil_iff.mpr inside
  have whole : line.takeWhile (· ≠ lineFeed) = line := List.takeWhile_eq_self_iff.mpr inside
  rw [splitLine, cut, whole]

def chomp (line : String) : String :=
  if line.toList.getLast? = some '\r' then String.ofList line.toList.dropLast else line

theorem chomp_append_return (line : String) : chomp (line ++ "\r") = line := by
  have last : (line ++ "\r").toList = line.toList ++ ['\r'] := String.toList_append
  rw [chomp, last, List.getLast?_concat, if_pos rfl, List.dropLast_concat, String.ofList_toList]

theorem chomp_of_getLast? {line : String} (kept : line.toList.getLast? ≠ some '\r') :
    chomp line = line := if_neg kept

theorem dropReturn_ofString (line : String) :
    dropReturn (Bytes.ofString line) = Bytes.ofString (chomp line) := by
  rcases List.eq_nil_or_concat line.toList with empty | ⟨front, last, split⟩
  · rw [String.toList_eq_nil_iff.mp empty]
    rfl
  · rw [List.concat_eq_append] at split
    have bytes : Bytes.ofString line =
        front.flatMap String.utf8EncodeChar ++ String.utf8EncodeChar last := by
      rw [Bytes.ofString_eq_flatMap, split, List.flatMap_append, List.flatMap_singleton]
    by_cases isReturn : last = '\r'
    · have encoded : String.utf8EncodeChar '\r' = [carriageReturn] := by decide
      rw [isReturn] at split bytes
      rw [encoded] at bytes
      rw [dropReturn, bytes, List.getLast?_concat, if_pos rfl, List.dropLast_concat, chomp, split,
        List.getLast?_concat, if_pos rfl, List.dropLast_concat, Bytes.ofString_ofList]
    · have kept : line.toList.getLast? ≠ some '\r' := by
        rw [split, List.getLast?_concat]
        exact fun same => isReturn (Option.some.inj same)
      rw [chomp_of_getLast? kept, dropReturn, if_neg]
      intro ends
      have present : String.utf8EncodeChar last ≠ [] := String.utf8EncodeChar_ne_nil
      rw [bytes, List.getLast?_append, List.getLast?_eq_some_getLast present, Option.some_or,
        ← List.getLast?_eq_some_getLast present] at ends
      have same := (Bytes.mem_utf8EncodeChar_iff (by decide) last).mp (List.mem_of_getLast? ends)
      exact isReturn (Char.toNat_inj.mp same)

/-- How the line of a text ends: with a line feed, or with a carriage return before it. -/
inductive LineEnd where
  | feed
  | returnFeed
  deriving DecidableEq, Repr

def LineEnd.text : LineEnd → String
  | .feed => "\n"
  | .returnFeed => "\r\n"

def LineEnd.read : LineEnd → String → String
  | .feed, line => chomp line
  | .returnFeed, line => line

theorem LineEnd.read_of_getLast? (e : LineEnd) {line : String}
    (kept : line.toList.getLast? ≠ some '\r') : e.read line = line := by
  cases e with
  | feed => exact chomp_of_getLast? kept
  | returnFeed => rfl

theorem lines_append_lineFeed {line : String} (single : '\n' ∉ line.toList) (rest : String) :
    lines (Bytes.ofString (line ++ "\n" ++ rest)) =
      .ok (chomp line) :: lines (Bytes.ofString rest) := by
  have bytes : Bytes.ofString (line ++ "\n" ++ rest) =
      Bytes.ofString line ++ lineFeed :: Bytes.ofString rest := by
    rw [Bytes.ofString_append, Bytes.ofString_append, List.append_assoc]
    rfl
  have clean := lineFeed_not_mem_ofString single
  rw [bytes, lines_cons (by simp), splitLine_append clean, dropReturn_ofString, decode_ofString]

theorem lines_lineEnd (e : LineEnd) {line : String} (single : '\n' ∉ line.toList)
    (rest : String) :
    lines (Bytes.ofString (line ++ e.text ++ rest)) =
      .ok (e.read line) :: lines (Bytes.ofString rest) := by
  cases e with
  | feed => exact lines_append_lineFeed single rest
  | returnFeed =>
    have single' : '\n' ∉ (line ++ "\r").toList := by
      simpa using single
    have ends : line ++ LineEnd.returnFeed.text = line ++ "\r" ++ "\n" := by
      rw [String.append_assoc]
      rfl
    rw [ends, lines_append_lineFeed single', chomp_append_return]
    rfl

theorem lines_last {line : String} (present : line ≠ "") (single : '\n' ∉ line.toList) :
    lines (Bytes.ofString line) = [.ok line] := by
  have unread : Bytes.ofString line ≠ [] := fun empty =>
    present (Bytes.ofString_injective (show Bytes.ofString line = Bytes.ofString "" from empty))
  rw [lines_cons unread, splitLine_last (lineFeed_not_mem_ofString single), decode_ofString,
    lines_nil]

end Source
end TaskRunner
