import Multiway.Lib.Text

/-!
# Cutting a text into lines and words

Rust's `str` methods that cut a text at a character or at white space, on the
characters of the text. `lines_append` cuts a text behind any of its newlines,
and `trim_pad` is what is left of a text with white space put around it.
-/

namespace Multiway.Lib.Text

/-- `char::is_whitespace`, the characters with the Unicode property `White_Space`. -/
def isWhitespace (c : Char) : Bool :=
  let n := c.toNat
  (9 ≤ n && n ≤ 13) || n == 32 || n == 0x85 || n == 0xa0 || n == 0x1680 ||
    (0x2000 ≤ n && n ≤ 0x200a) || n == 0x2028 || n == 0x2029 || n == 0x202f || n == 0x205f ||
    n == 0x3000

/-- `str::trim`. -/
def trim (cs : List Char) : List Char := (cs.dropWhile isWhitespace).rdropWhile isWhitespace

/-- `str::split_once`: split around the first `sep`. -/
def splitOnce (sep : Char) (cs : List Char) : Option (List Char × List Char) :=
  match cs.dropWhile (· != sep) with
  | [] => none
  | _ :: after => some (cs.takeWhile (· != sep), after)

/-- `str::split_whitespace`. -/
def splitWhitespace (cs : List Char) : List (List Char) :=
  (cs.splitOnP isWhitespace).filter (!·.isEmpty)

/-- The line without the carriage return before its newline. -/
def stripCr (line : List Char) : List Char :=
  if line.getLast? = some '\r' then line.dropLast else line

/-- The lines between newlines; what follows the last newline is a line if there
is anything. -/
def closeLines : List (List Char) → List (List Char)
  | [] => []
  | [last] => if last.isEmpty then [] else [last]
  | line :: rest => stripCr line :: closeLines rest

/-- `str::lines`. -/
def lines (cs : List Char) : List (List Char) := closeLines (cs.splitOn '\n')

/-- `str::to_lowercase`, on what is an ASCII letter or becomes one (the Kelvin
sign): the results are compared with ASCII words. -/
def toLowercase (cs : List Char) : List Char :=
  cs.map fun c => if c = Char.ofNat 0x212a then 'k' else c.toLower

example : lines "a\r\n\nb\rc\r".toList = ["a".toList, [], "b\rc\r".toList] := by decide

/-! ## Lines -/

theorem closeLines_append {rest : List (List Char)} (h : rest ≠ []) (front : List (List Char)) :
    closeLines (front ++ rest) = front.map stripCr ++ closeLines rest := by
  induction front with
  | nil => rfl
  | cons line front ih =>
    obtain ⟨next, more, hnext⟩ := List.exists_cons_of_ne_nil
      (List.append_ne_nil_of_right_ne_nil front h)
    rw [List.cons_append, hnext, closeLines, ← hnext, ih]
    · rfl
    · simp

/-- The lines of a text that ends in a newline. -/
theorem lines_newline (cs : List Char) :
    lines (cs ++ ['\n']) = (cs.splitOn '\n').map stripCr := by
  rw [lines, List.splitOn_append_cons_self, closeLines_append (List.splitOn_ne_nil _ _)]
  simp [closeLines]

/-- What stands behind a newline does not touch the lines before it. -/
theorem lines_append (cs rest : List Char) :
    lines (cs ++ '\n' :: rest) = lines (cs ++ ['\n']) ++ lines rest := by
  rw [lines_newline, lines, List.splitOn_append_cons_self,
    closeLines_append (List.splitOn_ne_nil _ _)]
  rfl

theorem lines_cons {line : List Char} (h : '\n' ∉ line) (rest : List Char) :
    lines (line ++ '\n' :: rest) = stripCr line :: lines rest := by
  rw [lines_append, lines_newline, List.splitOn_eq_singleton h]
  rfl

theorem stripCr_concat (line : List Char) : stripCr (line ++ ['\r']) = line := by
  simp [stripCr]

theorem stripCr_of_notMem {line : List Char} (h : '\r' ∉ line) : stripCr line = line := by
  refine if_neg fun hlast => h ?_
  exact List.mem_of_getLast? hlast

/-! ## Trimming and splitting -/

/-- White space around a text that neither starts nor ends with any is all that
`trim` takes off. -/
theorem trim_pad {before value after : List Char} (hbefore : ∀ c ∈ before, isWhitespace c = true)
    (hafter : ∀ c ∈ after, isWhitespace c = true)
    (hhead : ∀ c ∈ value.head?, isWhitespace c = false)
    (hlast : ∀ c ∈ value.getLast?, isWhitespace c = false) :
    trim (before ++ value ++ after) = value := by
  rcases value with _ | ⟨c, rest⟩
  · have hall : ∀ c ∈ before ++ [] ++ after, isWhitespace c = true := by
      simpa [or_imp, forall_and] using ⟨hbefore, hafter⟩
    rw [trim, List.dropWhile_eq_nil_iff.mpr hall, List.rdropWhile_nil]
  · have hdrop : (before ++ (c :: rest) ++ after).dropWhile isWhitespace = c :: rest ++ after := by
      rw [List.append_assoc, List.dropWhile_append_of_pos hbefore, List.cons_append,
        List.dropWhile_cons_of_neg (by simp [hhead c rfl])]
    have hrev : ∀ c ∈ after.reverse, isWhitespace c = true := by simpa using hafter
    rw [trim, hdrop, List.rdropWhile, List.reverse_append, List.dropWhile_append_of_pos hrev,
      ← List.rdropWhile, List.rdropWhile_eq_self_iff.mpr]
    intro hne
    rw [hlast _ (List.getLast?_eq_some_getLast hne)]
    exact Bool.false_ne_true

theorem trim_append_left {before : List Char} (h : ∀ c ∈ before, isWhitespace c = true)
    (text : List Char) : trim (before ++ text) = trim text := by
  rw [trim, List.dropWhile_append_of_pos h, trim]

theorem trim_append_right {after : List Char} (h : ∀ c ∈ after, isWhitespace c = true)
    (text : List Char) : trim (text ++ after) = trim text := by
  rw [trim, trim, List.dropWhile_append]
  by_cases hall : (text.dropWhile isWhitespace).isEmpty = true
  · have hnil : text.dropWhile isWhitespace = [] := List.isEmpty_iff.mp hall
    rw [if_pos hall, List.dropWhile_eq_nil_iff.mpr h, hnil]
  · have hrev : ∀ c ∈ after.reverse, isWhitespace c = true := by simpa using h
    rw [if_neg hall, List.rdropWhile, List.reverse_append, List.dropWhile_append_of_pos hrev,
      ← List.rdropWhile]

/-- What `trim` takes off is white space. -/
theorem exists_trim (text : List Char) :
    ∃ before after, text = before ++ trim text ++ after ∧
      (∀ c ∈ before, isWhitespace c = true) ∧ ∀ c ∈ after, isWhitespace c = true := by
  refine ⟨text.takeWhile isWhitespace, (text.dropWhile isWhitespace).rtakeWhile isWhitespace,
    ?_, ?_, ?_⟩
  · have hright : (text.dropWhile isWhitespace).rdropWhile isWhitespace ++
        (text.dropWhile isWhitespace).rtakeWhile isWhitespace = text.dropWhile isWhitespace :=
      List.rdropWhile_append_rtakeWhile
    rw [trim, List.append_assoc, hright, List.takeWhile_append_dropWhile]
  · exact fun c hc => List.mem_takeWhile_imp hc
  · exact fun c hc => List.mem_rtakeWhile_imp hc

/-- Cutting a trimmed text gives the parts of the text, but for white space at
their ends. -/
theorem map_trim_splitOn_trim {sep : Char} (hsep : isWhitespace sep = false) (text : List Char) :
    ((trim text).splitOn sep).map trim = (text.splitOn sep).map trim := by
  have hnotMem : ∀ space : List Char, (∀ c ∈ space, isWhitespace c = true) → sep ∉ space := by
    intro space hspace hmem
    rw [hspace sep hmem] at hsep
    cases hsep
  have hleft : ∀ before : List Char, (∀ c ∈ before, isWhitespace c = true) →
      ∀ t : List Char, ((before ++ t).splitOn sep).map trim = (t.splitOn sep).map trim := by
    intro before hbefore t
    by_cases hmem : sep ∈ t
    · obtain ⟨x, y, rfl, hx⟩ := List.eq_append_cons_of_mem hmem
      rw [← List.append_assoc, List.splitOn_append_cons_self_of_not_mem hx,
        List.splitOn_append_cons_self_of_not_mem (by simp [hx, hnotMem before hbefore])]
      rw [List.map_cons, List.map_cons, trim_append_left hbefore]
    · rw [List.splitOn_eq_singleton hmem,
        List.splitOn_eq_singleton (by simp [hmem, hnotMem before hbefore])]
      rw [List.map_singleton, List.map_singleton, trim_append_left hbefore]
  have hright : ∀ after : List Char, (∀ c ∈ after, isWhitespace c = true) →
      ∀ (n : ℕ) (t : List Char), t.length = n →
        ((t ++ after).splitOn sep).map trim = (t.splitOn sep).map trim := by
    intro after hafter n
    induction n using Nat.strong_induction_on with
    | _ n ih =>
      intro t hn
      by_cases hmem : sep ∈ t
      · obtain ⟨x, y, rfl, hx⟩ := List.eq_append_cons_of_mem hmem
        have hy := ih y.length (by simp at hn; omega) y rfl
        rw [List.append_assoc, List.cons_append, List.splitOn_append_cons_self_of_not_mem hx,
          List.splitOn_append_cons_self_of_not_mem hx, List.map_cons, List.map_cons, hy]
      · rw [List.splitOn_eq_singleton hmem,
          List.splitOn_eq_singleton (by simp [hmem, hnotMem after hafter])]
        rw [List.map_singleton, List.map_singleton, trim_append_right hafter]
  obtain ⟨before, after, htext, hbefore, hafter⟩ := exists_trim text
  calc ((trim text).splitOn sep).map trim
      = ((trim text ++ after).splitOn sep).map trim := (hright after hafter _ _ rfl).symm
    _ = ((before ++ (trim text ++ after)).splitOn sep).map trim :=
      (hleft before hbefore _).symm
    _ = (text.splitOn sep).map trim := by rw [← List.append_assoc, ← htext]

theorem splitOnce_of_notMem {sep : Char} {name : List Char} (h : sep ∉ name) (after : List Char) :
    splitOnce sep (name ++ sep :: after) = some (name, after) := by
  have hname : ∀ c ∈ name, (c != sep) = true := by
    intro c hc
    rw [bne_iff_ne]
    rintro rfl
    exact h hc
  have hdrop : (name ++ sep :: after).dropWhile (· != sep) = sep :: after := by
    rw [List.dropWhile_append_of_pos hname, List.dropWhile_cons_of_neg (by simp)]
  rw [splitOnce, hdrop, List.takeWhile_append_of_pos hname]
  simp

theorem splitOnce_eq_none {sep : Char} {cs : List Char} (h : sep ∉ cs) :
    splitOnce sep cs = none := by
  have hall : ∀ c ∈ cs, (c != sep) = true := by
    intro c hc
    rw [bne_iff_ne]
    rintro rfl
    exact h hc
  rw [splitOnce, List.dropWhile_eq_nil_iff.mpr hall]

/-- A word and the white space behind it come off the front. -/
theorem splitWhitespace_cons {word : List Char} {sep : Char} (hne : word ≠ [])
    (hword : ∀ c ∈ word, isWhitespace c = false) (hsep : isWhitespace sep = true)
    (rest : List Char) : splitWhitespace (word ++ sep :: rest) = word :: splitWhitespace rest := by
  rw [splitWhitespace, List.splitOnP_append_cons_of_forall_mem hword sep hsep]
  simp [splitWhitespace, hne]

end Multiway.Lib.Text
