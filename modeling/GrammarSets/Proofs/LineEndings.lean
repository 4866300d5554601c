import Mathlib.Data.List.Induction
import Mathlib.Data.List.TakeWhile
import GrammarSets.Program
import GrammarSets.Proofs.Rendering
import GrammarSets.Proofs.RuleLines

/-!
# Line endings do not matter

With a carriage return put before each line feed (`withReturns`), a line that had none at its end
reads as before, and a line that had one keeps one, since only the return right before the line
feed belongs to the ending. In UTF-8 a carriage return is a character by itself wherever it stands,
so a line is text with it exactly if it is text without it (`decode_append_return`). All that is
left is a blank at the end of a line, and neither the end token nor comments nor tokens depend on
such blanks (`read_padded`).
-/
namespace GrammarSets

namespace Text

/-- Bytes with a carriage return before each line feed. -/
def withReturns (bytes : List UInt8) : List UInt8 :=
  bytes.flatMap fun b => if b = 0x0A then [0x0D, 0x0A] else [b]

section Lines
variable {part bytes : List UInt8}

theorem withReturns_of_not_mem (h : 0x0A ∉ bytes) : withReturns bytes = bytes := by
  induction bytes with
  | nil => rfl
  | cons b bytes ih =>
      rw [List.mem_cons, not_or] at h
      rw [withReturns, List.flatMap_cons, if_neg (Ne.symm h.1), ← withReturns, ih h.2]
      rfl

theorem withReturns_append (h : 0x0A ∉ part) (rest : List UInt8) :
    withReturns (part ++ 0x0A :: rest) = part ++ [0x0D] ++ 0x0A :: withReturns rest := by
  have hpart : withReturns part = part := withReturns_of_not_mem h
  rw [withReturns] at hpart
  rw [withReturns, List.flatMap_append, hpart, List.flatMap_cons, if_pos rfl, withReturns]
  simp

theorem dropReturn_append (bytes : List UInt8) : dropReturn (bytes ++ [0x0D]) = bytes := by
  simp [dropReturn]

theorem eq_dropReturn_or (bytes : List UInt8) :
    bytes = dropReturn bytes ∨ bytes = dropReturn bytes ++ [0x0D] := by
  unfold dropReturn
  split
  · next h => exact .inr (List.dropLast_append_getLast? _ h).symm
  · exact .inl rfl

theorem lines_append (h : 0x0A ∉ part) (rest : List UInt8) :
    lines (part ++ 0x0A :: rest) = dropReturn part :: lines rest := by
  obtain ⟨first, others, he⟩ := List.exists_cons_of_ne_nil (List.splitOn_ne_nil 0x0A rest)
  rw [lines, List.splitOn_append_cons_self_of_not_mem h, lines, he, closeLines]
  simp

/-- Some lines have a carriage return more at their end, and nothing else changes. -/
theorem lines_withReturns (bytes : List UInt8) :
    List.Forall₂ (fun line line' => line' = line ∨ line' = line ++ [0x0D])
      (lines bytes) (lines (withReturns bytes)) := by
  induction bytes using separator_induction (0x0A : UInt8) with
  | single bytes h =>
      rw [withReturns_of_not_mem h]
      exact List.forall₂_same.2 fun _ _ => .inl rfl
  | append part rest h ih =>
      have h' : 0x0A ∉ part ++ [0x0D] := by simpa using h
      rw [withReturns_append h, lines_append h, lines_append h', dropReturn_append]
      exact .cons (eq_dropReturn_or part) ih

/-- A return of the line's own stays, and a last line without a line feed is not touched. -/
example : lines (withReturns [0x61, 0x0D, 0x0A, 0x0A, 0x62, 0x0D]) =
    [[0x61, 0x0D], [], [0x62, 0x0D]] := by decide

end Lines

section Utf8
variable {bytes : List UInt8} {text : String}

/-- The bytes of a line are the UTF-8 of its text. -/
theorem decode_eq_ok_iff :
    decode bytes = .ok text ↔ text.toList.flatMap String.utf8EncodeChar = bytes := by
  have hbytes : text.toByteArray = bytes.toByteArray ↔
      text.toList.flatMap String.utf8EncodeChar = bytes := by
    rw [← String.utf8Encode_toList, List.utf8Encode, List.toByteArray_inj]
  rw [← hbytes, decode, String.fromUTF8?]
  by_cases h : bytes.toByteArray.IsValidUTF8
  · simp only [h, dif_pos, Except.ok.injEq]
    rw [eq_comm, ← String.toByteArray_inj]
    rfl
  · simp only [h, dif_neg, not_false_iff]
    refine iff_of_false nofun fun ht => h ?_
    exact ht ▸ text.isValidUTF8

theorem decode_eq_ok_or (bytes : List UInt8) :
    (∃ text, decode bytes = .ok text) ∨ decode bytes = .error .invalidText := by
  rw [decode]
  split
  · exact .inl ⟨_, rfl⟩
  · exact .inr rfl

/-- No character of more than one byte ends with a carriage return. -/
theorem eq_nil_of_utf8EncodeChar {c : Char} {init : List UInt8}
    (h : String.utf8EncodeChar c = init ++ [0x0D]) : init = [] := by
  have hlt : init.length < (String.utf8EncodeChar c).length := by simp [h]
  have hlast : (String.utf8EncodeChar c)[init.length] = 0x0D := by simp [h]
  have hfirst : (String.utf8EncodeChar c)[init.length].IsUTF8FirstByte := by
    rw [hlast]
    decide
  exact List.length_eq_zero_iff.1 (UInt8.isUTF8FirstByte_getElem_utf8EncodeChar.1 hfirst)

theorem exists_chars_of_append_return {cs : List Char}
    (h : cs.flatMap String.utf8EncodeChar = bytes ++ [0x0D]) :
    ∃ init : List Char, init.flatMap String.utf8EncodeChar = bytes := by
  cases cs using List.reverseRecOn with
  | nil => simp at h
  | append_singleton init c =>
      obtain ⟨front, b, hc⟩ := (List.eq_nil_or_concat' (String.utf8EncodeChar c)).resolve_left
        String.utf8EncodeChar_ne_nil
      rw [List.flatMap_append, List.flatMap_singleton, hc, ← List.append_assoc] at h
      obtain ⟨hinit, hb⟩ := List.append_inj' h rfl
      rw [List.singleton_inj.1 hb] at hc
      rw [eq_nil_of_utf8EncodeChar hc, List.append_nil] at hinit
      exact ⟨init, hinit⟩

/-- A carriage return at the end of bytes is a character at the end of their text, and bytes that
are no text do not become one by it. -/
theorem decode_append_return (bytes : List UInt8) :
    decode (bytes ++ [0x0D]) = (decode bytes).map (·.push '\r') := by
  rcases decode_eq_ok_or bytes with ⟨text, h⟩ | h
  · rw [h]
    refine decode_eq_ok_iff.2 ?_
    rw [String.toList_push, List.flatMap_append, decode_eq_ok_iff.1 h]
    rfl
  · -- If there were a text with the return, its characters before the return would be one without.
    rw [h]
    refine (decode_eq_ok_or _).resolve_left ?_
    rintro ⟨text, ht⟩
    obtain ⟨init, hinit⟩ := exists_chars_of_append_return (decode_eq_ok_iff.1 ht)
    have hok : decode bytes = .ok (String.ofList init) := by
      rwa [decode_eq_ok_iff, String.toList_ofList]
    cases h.symm.trans hok

end Utf8
end Text

section Blanks
variable {blanks : List Char} (h : ∀ c ∈ blanks, Text.isBlank c = true)
include h

theorem Text.trimEnd_append (cs : List Char) : trimEnd (cs ++ blanks) = trimEnd cs := by
  rw [trimEnd, List.reverse_append, List.dropWhile_append_of_pos (by simpa using h), trimEnd]

theorem Text.trim_append (cs : List Char) : trim (cs ++ blanks) = trim cs := by
  rw [trim, trim, List.dropWhile_append]
  split
  · next he => rw [List.isEmpty_iff.1 he, List.dropWhile_eq_nil_iff.2 h]
  · exact trimEnd_append h _

theorem Token.renders_blanks : Renders [] blanks := by
  induction blanks with
  | nil => exact .nil
  | cons c blanks ih =>
      rw [List.forall_mem_cons] at h
      exact .blank h.1 (ih h.2)

theorem Token.Renders.append_blanks {tokens : List Token} {cs : List Char}
    (hr : Renders tokens cs) : Renders tokens (cs ++ blanks) := by
  induction hr with
  | nil => exact renders_blanks h
  | blank hc _ ih => exact .blank hc ih
  | token hs ha _ ih =>
      rw [List.append_assoc]
      refine .token hs (fun text other ht ho => ?_) ih
      obtain ⟨c, rest, rfl, hc⟩ := ha text other ht ho
      exact ⟨c, rest ++ blanks, rfl, hc⟩

theorem Token.scan_append_blanks (cs : List Char) : scan (cs ++ blanks) = scan cs :=
  scan_of_renders ((renders_scan cs).append_blanks h) proper_of_mem_scan

theorem Text.trim_toList_append (text : String) :
    trim (text ++ String.ofList blanks).toList = trim text.toList := by
  rw [String.toList_append, String.toList_ofList, trim_append h]

theorem Settings.endsAt_append (settings : Settings) (text : String) :
    settings.endsAt (text ++ String.ofList blanks) = settings.endsAt text := by
  rw [endsAt, Text.trim_toList_append h, endsAt]

theorem isRuleLine_append (text : String) :
    isRuleLine (text ++ String.ofList blanks) = isRuleLine text := by
  rw [isRuleLine, Text.trim_toList_append h, isRuleLine]

theorem Source.ruleAt_append (location : Location) (text : String) :
    ruleAt location (text ++ String.ofList blanks) = ruleAt location text := by
  rw [ruleAt, Rule.ofLine, Token.ofLine, String.toList_append, String.toList_ofList,
    Token.scan_append_blanks h, ruleAt, Rule.ofLine, Token.ofLine]

end Blanks

/-- The same line but for blanks at its end. -/
def Line.Padded (line line' : Line) : Prop :=
  ∃ blanks : List Char, (∀ c ∈ blanks, Text.isBlank c = true) ∧
    line' = line.map (· ++ String.ofList blanks)

theorem Line.padded_ofBytes (bytes : List UInt8) :
    List.Forall₂ Padded (ofBytes bytes) (ofBytes (Text.withReturns bytes)) := by
  rw [ofBytes, ofBytes, List.forall₂_map_left_iff, List.forall₂_map_right_iff]
  refine (Text.lines_withReturns bytes).imp fun line line' h => ?_
  rcases h with h | h
  · refine ⟨[], by simp, ?_⟩
    rw [h]
    cases Text.decode line <;> simp [Except.map]
  · refine ⟨['\r'], by simp [Text.isBlank], ?_⟩
    rw [h, Text.decode_append_return]
    rfl

namespace Source
variable {lines lines' : List Line}

theorem collect_padded (h : List.Forall₂ Line.Padded lines lines') (name : String)
    (settings : Settings) (n : Nat) (draft : Draft) :
    collect name settings n lines' draft = collect name settings n lines draft := by
  induction h generalizing n draft with
  | nil => rfl
  | @cons line _ _ _ hline _ ih =>
      obtain ⟨blanks, hb, rfl⟩ := hline
      cases line with
      | error fault => rfl
      | ok text =>
          simp only [Except.map, collect, settings.endsAt_append hb, isRuleLine_append hb,
            ruleAt_append hb, ih]

/-- Blanks at the ends of lines have no influence. -/
theorem read_padded (h : List.Forall₂ Line.Padded lines lines') (name : String)
    (settings : Settings) :
    (⟨name, lines'⟩ : Source).read settings = (⟨name, lines⟩ : Source).read settings := by
  rw [read, collect_padded h, read]

theorem read_withReturns (name : String) (bytes : List UInt8) (settings : Settings) :
    (⟨name, Line.ofBytes (Text.withReturns bytes)⟩ : Source).read settings =
      (⟨name, Line.ofBytes bytes⟩ : Source).read settings :=
  read_padded (Line.padded_ofBytes bytes) name settings

end Source

namespace Program

/-- The program answers its input in the same way if a carriage return is put before each line
feed. -/
theorem report_withReturns (a : Arguments) (input : List UInt8) :
    report a (.ok (Line.ofBytes (Text.withReturns input))) =
      report a (.ok (Line.ofBytes input)) := by
  simp only [report, readOpened, Source.read_withReturns]

/-- Whatever the bytes of a file and the settings, with a carriage return put before each line feed
the file gives the same grammar, or the same failure at the same line, and the same records. -/
theorem readOpened_withReturns (path : String) (bytes : List UInt8) (settings : Settings) :
    readOpened path (.ok (Line.ofBytes (Text.withReturns bytes))) settings =
      readOpened path (.ok (Line.ofBytes bytes)) settings :=
  Source.read_withReturns path bytes settings

/-- Two rules with a comment and a blank line between them, and bytes that are no text behind the
end token. Three of the lines end with a carriage return, one of these with two. -/
def mixedEndings : List UInt8 :=
  "S → a B\r\n;\r\r\n\nB ->\n END\r\n".toList.flatMap String.utf8EncodeChar ++ [0xFF, 0x0D]

def mixedGrammar : Grammar where
  start := "S"
  rules := ⟨[("S", [[.terminal "a", .nonterminal "B"]]), ("B", [[]])], by decide⟩

/-- With another end token, the line of the end token is a rule without an arrow. -/
theorem readOpened_withReturns_mixedEndings :
    (readOpened "g" (.ok (Line.ofBytes mixedEndings)) ⟨"end", none⟩).value = .ok mixedGrammar ∧
    (readOpened "g" (.ok (Line.ofBytes (Text.withReturns mixedEndings))) ⟨"end", none⟩).value =
      .ok mixedGrammar ∧
    (readOpened "g" (.ok (Line.ofBytes mixedEndings)) ⟨"stop", none⟩).value =
      .error ⟨⟨"g", 5⟩, .rule .malformed⟩ ∧
    (readOpened "g" (.ok (Line.ofBytes (Text.withReturns mixedEndings))) ⟨"stop", none⟩).value =
      .error ⟨⟨"g", 5⟩, .rule .malformed⟩ := by
  have hread : (readOpened "g" (.ok (Line.ofBytes mixedEndings)) ⟨"end", none⟩).value =
      .ok mixedGrammar := by decide +kernel
  have hfault : (readOpened "g" (.ok (Line.ofBytes mixedEndings)) ⟨"stop", none⟩).value =
      .error ⟨⟨"g", 5⟩, .rule .malformed⟩ := by decide +kernel
  refine ⟨hread, ?_, hfault, ?_⟩
  · rw [readOpened_withReturns, hread]
  · rw [readOpened_withReturns, hfault]

end Program
end GrammarSets
