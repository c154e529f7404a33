import Mathlib.Data.List.DropRight
import Mathlib.Data.List.TakeWhile

namespace Pyramulator.Text

/-! Texts as lists: what is between two separators, without the blanks around it, line by
line; and their digits. -/

section Strip

variable {α : Type} (blank : α → Bool)

def strip (text : List α) : List α := (text.dropWhile blank).rdropWhile blank

variable {blank}

theorem dropWhile_append_cons {mark : α} (dark : blank mark = false)
    (left right : List α) :
    (left ++ mark :: right).dropWhile blank = left.dropWhile blank ++ mark :: right := by
  induction left with
  | nil => simp [dark]
  | cons first rest induction =>
      rw [List.cons_append, List.dropWhile_cons, List.dropWhile_cons]
      split
      · exact induction
      · rfl

theorem rdropWhile_append_cons {mark : α} (dark : blank mark = false)
    (left right : List α) :
    (left ++ mark :: right).rdropWhile blank = left ++ mark ::
      right.rdropWhile blank := by
  have reversed := dropWhile_append_cons dark right.reverse left.reverse
  rw [List.rdropWhile, List.reverse_append, List.reverse_cons, List.append_assoc,
    List.singleton_append, reversed, List.reverse_append, List.reverse_cons,
    List.reverse_reverse, List.append_assoc, List.singleton_append]
  rfl

theorem strip_append_cons {mark : α} (dark : blank mark = false) (left right : List α) :
    strip blank (left ++ mark :: right) =
      left.dropWhile blank ++ mark :: right.rdropWhile blank := by
  rw [strip, dropWhile_append_cons dark, rdropWhile_append_cons dark]

theorem strip_comm (text : List α) :
    strip blank text = (text.rdropWhile blank).dropWhile blank := by
  by_cases dark : ∃ mark ∈ text, blank mark = false
  · obtain ⟨mark, member, dark⟩ := dark
    obtain ⟨left, right, rfl⟩ := List.append_of_mem member
    rw [strip_append_cons dark, rdropWhile_append_cons dark, dropWhile_append_cons dark]
  · have blanks : ∀ mark ∈ text, blank mark = true := fun mark member => by
      by_contra not_
      exact dark ⟨mark, member, Bool.eq_false_iff.mpr not_⟩
    rw [strip, List.dropWhile_eq_nil_iff.mpr blanks,
      List.rdropWhile_eq_nil_iff.mpr blanks]
    rfl

theorem strip_dropWhile (text : List α) :
    strip blank (text.dropWhile blank) = strip blank text := by
  rw [strip, strip, List.dropWhile_idempotent]

theorem strip_rdropWhile (text : List α) :
    strip blank (text.rdropWhile blank) = strip blank text := by
  rw [strip_comm, strip_comm, List.rdropWhile_idempotent]

theorem strip_strip (text : List α) :
    strip blank (strip blank text) = strip blank text := by
  calc
    strip blank (strip blank text) = strip blank (text.dropWhile blank) :=
      strip_rdropWhile _
    _ = strip blank text := strip_dropWhile text

theorem strip_cons {first : α} (light : blank first = true) (rest : List α) :
    strip blank (first :: rest) = strip blank rest := by
  rw [strip, List.dropWhile_cons, if_pos light]
  rfl

theorem strip_concat {last : α} (light : blank last = true) (text : List α) :
    strip blank (text ++ [last]) = strip blank text := by
  rw [strip_comm, List.rdropWhile_concat_pos _ _ _ light, ← strip_comm]

theorem mem_of_mem_strip {mark : α} {text : List α} (member : mark ∈ strip blank text) :
    mark ∈ text :=
  (List.dropWhile_sublist _).subset ((List.rdropWhile_prefix _ _).subset member)

end Strip

section Partition

variable {α : Type} [DecidableEq α] (mark : α)

def before (text : List α) : List α := text.takeWhile fun other => other ≠ mark

def after (text : List α) : List α := (text.dropWhile fun other => other ≠ mark).drop 1

variable {mark} {left text : List α}

theorem before_append (absent : mark ∉ left) (right : List α) :
    before mark (left ++ mark :: right) = left := by
  have all : ∀ other ∈ left, decide (other ≠ mark) = true := by
    intro other member
    refine decide_eq_true ?_
    rintro rfl
    exact absent member
  rw [before, List.takeWhile_append_of_pos all, List.takeWhile_cons, if_neg (by simp),
    List.append_nil]

theorem after_append (absent : mark ∉ left) (right : List α) :
    after mark (left ++ mark :: right) = right := by
  have all : ∀ other ∈ left, decide (other ≠ mark) = true := by
    intro other member
    refine decide_eq_true ?_
    rintro rfl
    exact absent member
  rw [after, List.dropWhile_append_of_pos all, List.dropWhile_cons, if_neg (by simp)]
  rfl

theorem before_of_not_mem (absent : mark ∉ text) : before mark text = text := by
  refine List.takeWhile_eq_self_iff.mpr fun other member => decide_eq_true ?_
  rintro rfl
  exact absent member

theorem not_mem_before (mark : α) (text : List α) : mark ∉ before mark text := by
  intro member
  have differs := List.mem_takeWhile_imp member
  simp at differs

theorem mem_of_mem_before {other : α} (member : other ∈ before mark text) :
    other ∈ text :=
  (List.takeWhile_sublist _).subset member

theorem before_mark_after (member : mark ∈ text) :
    before mark text ++ mark :: after mark text = text := by
  induction text with
  | nil => cases member
  | cons first rest induction =>
      by_cases same : first = mark
      · simp [before, after, same]
      · have later : mark ∈ rest := by
          rcases List.mem_cons.mp member with here | later
          · exact absurd here.symm same
          · exact later
        have split := induction later
        simp only [before, after] at split ⊢
        rw [List.takeWhile_cons, List.dropWhile_cons, if_pos (by simp [same]),
          if_pos (by simp [same]), List.cons_append, split]

end Partition

section Lines

def lines : List Char → List (List Char)
  | [] => []
  | first :: rest =>
      if first = '\n' then [first] :: lines rest
      else
        match lines rest with
        | [] => [[first]]
        | line :: more => (first :: line) :: more

theorem lines_append {line : List Char} (one : '\n' ∉ line) (rest : List Char) :
    lines (line ++ '\n' :: rest) = (line ++ ['\n']) :: lines rest := by
  induction line with
  | nil => rfl
  | cons first line induction =>
      rw [List.mem_cons, not_or] at one
      rw [List.cons_append, lines, if_neg (Ne.symm one.1), induction one.2]
      rfl

theorem of_mem_lines {line text : List Char} (member : line ∈ lines text) :
    ∃ content, '\n' ∉ content ∧ (∀ mark ∈ content, mark ∈ text) ∧
      (line = content ++ ['\n'] ∨ line = content) := by
  induction text generalizing line with
  | nil => cases member
  | cons first rest induction =>
      have wider {content : List Char} (within : ∀ mark ∈ content, mark ∈ rest) :
          ∀ mark ∈ content, mark ∈ first :: rest :=
        fun mark its => List.mem_cons_of_mem first (within mark its)
      rw [lines] at member
      split at member
      · rename_i ends
        rcases List.mem_cons.mp member with rfl | later
        · refine ⟨[], List.not_mem_nil, fun _ impossible => ?_, .inl ?_⟩
          · cases impossible
          · rw [ends]
            rfl
        · obtain ⟨content, one, within, shape⟩ := induction later
          exact ⟨content, one, wider within, shape⟩
      · rename_i goes
        have extend {line : List Char} (listed : line ∈ lines rest) :
            ∃ content, '\n' ∉ content ∧ (∀ mark ∈ content, mark ∈ first :: rest) ∧
              (first :: line = content ++ ['\n'] ∨ first :: line = content) := by
          obtain ⟨content, one, within, shape⟩ := induction listed
          refine ⟨first :: content, ?_, ?_, ?_⟩
          · rw [List.mem_cons, not_or]
            exact ⟨Ne.symm goes, one⟩
          · intro mark its
            rcases List.mem_cons.mp its with rfl | its
            · exact List.mem_cons_self
            · exact List.mem_cons_of_mem _ (within mark its)
          · rcases shape with rfl | rfl
            · exact .inl rfl
            · exact .inr rfl
        cases remaining : lines rest with
        | nil =>
            rw [remaining] at member
            obtain rfl := List.mem_singleton.mp member
            refine ⟨[first], ?_, ?_, .inr rfl⟩
            · simp [Ne.symm goes]
            · simp
        | cons line' more =>
            rw [remaining] at member
            rcases List.mem_cons.mp member with rfl | later
            · exact extend (remaining ▸ List.mem_cons_self)
            · obtain ⟨content, one, within, shape⟩ :=
                induction (remaining ▸ List.mem_cons_of_mem _ later)
              exact ⟨content, one, wider within, shape⟩

def newlines : List Char → List Char
  | [] => []
  | '\r' :: '\n' :: rest => '\n' :: newlines rest
  | '\r' :: rest => '\n' :: newlines rest
  | first :: rest => first :: newlines rest

theorem not_mem_newlines (text : List Char) : '\r' ∉ newlines text := by
  induction text using newlines.induct with
  | case1 => exact List.not_mem_nil
  | case2 rest induction =>
      rw [newlines, List.mem_cons, not_or]
      exact ⟨by decide, induction⟩
  | case3 rest _ induction =>
      rw [newlines, List.mem_cons, not_or]
      · exact ⟨by decide, induction⟩
      · assumption
  | case4 first rest _ other induction =>
      rw [newlines, List.mem_cons, not_or]
      · exact ⟨fun same => other same.symm, induction⟩
      · assumption
      · assumption

theorem newlines_of_not_mem {text : List Char} (absent : '\r' ∉ text) :
    newlines text = text := by
  induction text with
  | nil => rfl
  | cons first rest induction =>
      rw [List.mem_cons, not_or] at absent
      rw [newlines, induction absent.2]
      · exact fun _ same _ => absent.1 same.symm
      · exact fun same => absent.1 same.symm

end Lines

section Digits

/-- The decimal zeros of Unicode 14. Each is followed by the nine other digits. -/
def zeros : List Nat :=
  [
    0x30, 0x660, 0x6f0, 0x7c0, 0x966, 0x9e6, 0xa66, 0xae6, 0xb66, 0xbe6, 0xc66,
    0xce6, 0xd66, 0xde6, 0xe50, 0xed0, 0xf20, 0x1040, 0x1090, 0x17e0, 0x1810,
    0x1946, 0x19d0, 0x1a80, 0x1a90, 0x1b50, 0x1bb0, 0x1c40, 0x1c50, 0xa620, 0xa8d0,
    0xa900, 0xa9d0, 0xa9f0, 0xaa50, 0xabf0, 0xff10, 0x104a0, 0x10d30, 0x11066,
    0x110f0, 0x11136, 0x111d0, 0x112f0, 0x11450, 0x114d0, 0x11650, 0x116c0, 0x11730,
    0x118e0, 0x11950, 0x11c50, 0x11d50, 0x11da0, 0x16a60, 0x16ac0, 0x16b50, 0x1d7ce,
    0x1d7d8, 0x1d7e2, 0x1d7ec, 0x1d7f6, 0x1e140, 0x1e2f0, 0x1e950, 0x1fbf0]

def otherDigits : List (Nat × Nat) :=
  [
    (0xb2, 0xb3), (0xb9, 0xb9), (0x1369, 0x1371), (0x19da, 0x19da),
    (0x2070, 0x2070), (0x2074, 0x2079), (0x2080, 0x2089), (0x2460, 0x2468),
    (0x2474, 0x247c), (0x2488, 0x2490), (0x24ea, 0x24ea), (0x24f5, 0x24fd),
    (0x24ff, 0x24ff), (0x2776, 0x277e), (0x2780, 0x2788), (0x278a, 0x2792),
    (0x10a40, 0x10a43), (0x10e60, 0x10e68), (0x11052, 0x1105a), (0x1f100, 0x1f10a)]

/-- `unicodedata.decimal`. -/
def decimal (char : Char) : Option Nat :=
  (zeros.find? fun first => first ≤ char.toNat && char.toNat < first + 10).map
    (char.toNat - ·)

/-- `str.isdigit`, of one character. -/
def isDigit (char : Char) : Bool :=
  (decimal char).isSome ||
    otherDigits.any fun (first, last) => first ≤ char.toNat && char.toNat ≤ last

end Digits

end Pyramulator.Text
