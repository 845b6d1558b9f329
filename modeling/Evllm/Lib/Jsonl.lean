/-
# Logs of one record a line

A log is a text whose lines hold one record each; blank lines hold none. A log
that is written a line at a time is read back (`records_logText`), also while
its last line has no line feed, and a line that was ended stays as it is
whatever is appended after it (`records_append_newline`).

Key definitions: `records`, `logText`.
-/
import Evllm.Lib.JsString

namespace Lib

/-- The lines that are not blank. -/
def records (content : List Char) : List (List Char) := (lines content).filter fun line => !line.all isSpace

/-- The log of these texts. -/
def logText (texts : List (List Char)) : List Char := texts.flatMap (· ++ ['\n'])

theorem records_append_newline (a b : List Char) : records (a ++ '\n' :: b) = records a ++ records b := by
  rw [records, lines_append_cons, List.filter_append]
  rfl

@[simp] theorem records_nil : records [] = [] := rfl

theorem records_of_line {text : List Char} (hline : '\n' ∉ text) (hvisible : ¬text.all isSpace) :
    records text = [text] := by
  rw [records, lines_of_not_mem hline]
  simpa using hvisible

/-- A log and what stands after its last line feed. -/
theorem records_logText_append {texts : List (List Char)} (hline : ∀ text ∈ texts, '\n' ∉ text)
    (hvisible : ∀ text ∈ texts, ¬text.all isSpace) (rest : List Char) :
    records (logText texts ++ rest) = texts ++ records rest := by
  induction texts with
  | nil => rfl
  | cons text texts ih =>
    have hsplit : logText (text :: texts) ++ rest = text ++ '\n' :: (logText texts ++ rest) := by
      simp [logText]
    rw [hsplit, records_append_newline, records_of_line (hline text List.mem_cons_self) (hvisible text List.mem_cons_self),
      ih (fun t ht => hline t (List.mem_cons_of_mem _ ht)) fun t ht => hvisible t (List.mem_cons_of_mem _ ht)]
    rfl

theorem records_logText {texts : List (List Char)} (hline : ∀ text ∈ texts, '\n' ∉ text)
    (hvisible : ∀ text ∈ texts, ¬text.all isSpace) : records (logText texts) = texts := by
  simpa using records_logText_append hline hvisible []

theorem logText_concat (texts : List (List Char)) (text : List Char) :
    logText (texts ++ [text]) = logText texts ++ (text ++ ['\n']) := by
  simp [logText]

end Lib
