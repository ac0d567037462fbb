/-
This file states what the order of texts is: the one by their bytes in UTF-8. The
bytes of a smaller character come before those of a larger one already at the first
byte in which they differ, and no character's bytes begin another's; so whatever
follows has no say. A list that is sorted and rid of repetitions is sorted strictly.
-/

import Mathlib.Data.List.Sort
import Mathlib.Data.String.Basic

namespace ServerMonitor.Text

/-- The bytes of a text. -/
def utf8Bytes (text : String) : List UInt8 := text.toUTF8.data.toList

theorem utf8Bytes_eq_flatMap (text : String) :
    utf8Bytes text = text.toList.flatMap String.utf8EncodeChar := by
  rw [utf8Bytes, String.toUTF8_eq_toByteArray, ← String.utf8Encode_toList, List.utf8Encode,
    List.data_toByteArray]

/-! ### Characters -/

/-- The bytes of a smaller character come first, whatever follows. -/
theorem utf8EncodeChar_lt {left right : Char} (smaller : left < right)
    (leftRest rightRest : List UInt8) :
    String.utf8EncodeChar left ++ leftRest < String.utf8EncodeChar right ++ rightRest := by
  have codes : left.val.toNat < right.val.toNat := smaller
  have bound : right.val.toNat < 0x110000 := by
    have valid := right.valid
    simp only [UInt32.isValidChar, Nat.isValidChar] at valid
    omega
  unfold String.utf8EncodeChar
  generalize left.val.toNat = first at codes
  generalize right.val.toNat = second at codes bound
  dsimp only
  split_ifs <;>
    simp only [List.cons_append, List.nil_append, List.cons_lt_cons_iff, UInt8.lt_iff_toNat_lt,
      ← UInt8.toNat_inj, UInt8.toNat_ofNat', Nat.reducePow] <;>
    simp (disch := omega) only [Nat.mod_eq_of_lt] <;>
    omega

/-! ### Texts -/

theorem flatMap_utf8EncodeChar_lt {left right : List Char} (smaller : left < right) :
    left.flatMap String.utf8EncodeChar < right.flatMap String.utf8EncodeChar := by
  induction left generalizing right with
  | nil =>
    cases right with
    | nil => exact absurd smaller (List.lt_irrefl _)
    | cons second others =>
      obtain ⟨byte, bytes, encoded⟩ := List.exists_cons_of_ne_nil
        (String.utf8EncodeChar_ne_nil (c := second))
      rw [List.flatMap_cons, encoded]
      exact List.nil_lt_cons _ _
  | cons first rest inductionHypothesis =>
    cases right with
    | nil => exact absurd smaller (List.not_lt_nil _)
    | cons second others =>
      rw [List.flatMap_cons, List.flatMap_cons]
      rcases List.cons_lt_cons_iff.mp smaller with before | ⟨rfl, later⟩
      · exact utf8EncodeChar_lt before _ _
      · exact List.append_left_lt (inductionHypothesis later)

theorem utf8Bytes_lt_of_lt {left right : String} (smaller : left < right) :
    utf8Bytes left < utf8Bytes right := by
  rw [utf8Bytes_eq_flatMap, utf8Bytes_eq_flatMap]
  exact flatMap_utf8EncodeChar_lt (String.lt_iff.mp smaller)

/-- Texts are ordered by their bytes. -/
theorem utf8Bytes_lt_iff (left right : String) :
    utf8Bytes left < utf8Bytes right ↔ left < right := by
  refine ⟨fun smaller => ?_, utf8Bytes_lt_of_lt⟩
  rcases lt_trichotomy left right with before | rfl | after
  · exact before
  · exact absurd smaller (List.lt_irrefl _)
  · exact absurd smaller (List.lt_asymm (utf8Bytes_lt_of_lt after))

/-! ### Sorted lists -/

theorem pairwise_le_mergeSort (texts : List String) :
    (texts.mergeSort fun left right => decide (left ≤ right)).Pairwise (· ≤ ·) := by
  have sorted : (texts.mergeSort fun left right => decide (left ≤ right)).Pairwise
      fun left right => decide (left ≤ right) = true := by
    refine List.pairwise_mergeSort (fun _ _ _ first second => ?_) (fun left right => ?_) texts
    · exact decide_eq_true
        (String.le_trans (of_decide_eq_true first) (of_decide_eq_true second))
    · rw [Bool.or_eq_true, decide_eq_true_eq, decide_eq_true_eq]
      exact String.le_total left right
  exact sorted.imp of_decide_eq_true

/-- A sorted list rid of repetitions is sorted strictly. -/
theorem pairwise_lt_eraseDups {texts : List String} (sorted : texts.Pairwise (· ≤ ·)) :
    texts.eraseDups.Pairwise (· < ·) := by
  -- What is left behind the first text is shorter but not the tail.
  induction length : texts.length using Nat.strongRecOn generalizing texts with
  | ind _ inductionHypothesis =>
    cases texts with
    | nil => exact List.Pairwise.nil
    | cons first rest =>
      obtain ⟨least, later⟩ := List.pairwise_cons.mp sorted
      have shorter : (rest.filter fun text => !text == first).length < (first :: rest).length :=
        Nat.lt_succ_of_le (List.length_filter_le _ rest)
      rw [List.eraseDups_cons]
      refine List.pairwise_cons.mpr ⟨fun text member => ?_,
        inductionHypothesis _ (length ▸ shorter) (later.filter _) rfl⟩
      obtain ⟨present, other⟩ := List.mem_filter.mp (List.mem_eraseDups.mp member)
      refine lt_of_le_of_ne (least text present) fun same => ?_
      rw [same, beq_self_eq_true] at other
      cases other

/-- The texts of a list, sorted and each once. -/
def sortedOnce (texts : List String) : List String :=
  (texts.mergeSort fun left right => decide (left ≤ right)).eraseDups

theorem mem_sortedOnce {texts : List String} {text : String} :
    text ∈ sortedOnce texts ↔ text ∈ texts := by
  rw [sortedOnce, List.mem_eraseDups, (List.mergeSort_perm texts _).mem_iff]

theorem pairwise_lt_sortedOnce (texts : List String) : (sortedOnce texts).Pairwise (· < ·) :=
  pairwise_lt_eraseDups (pairwise_le_mergeSort texts)

/-- Neither order nor repetition matters. -/
theorem sortedOnce_eq {texts others : List String} (same : ∀ text, text ∈ texts ↔ text ∈ others) :
    sortedOnce texts = sortedOnce others :=
  (pairwise_lt_sortedOnce texts).eq_of_mem_iff (pairwise_lt_sortedOnce others) fun text => by
    rw [mem_sortedOnce, mem_sortedOnce, same]

end ServerMonitor.Text
