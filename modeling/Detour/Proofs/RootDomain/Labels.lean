import Detour.Proofs.RootDomain
import Detour.Proofs.Text.Split
import Mathlib.Data.List.Basic
/-!
# Root domains by their labels

A root domain may be read off the labels of a host, or cut from the bytes of the host behind the labels
that are left out. Main statement: both give the same, the cut never falls into a character, and
which labels stay is settled by the last ones, so that a root domain is its own root domain and
that of the hosts below it.
-/

namespace Detour

open Text (joinWith splitOn)
open Text.Utf8 (encode)

/-- Where the root domain of a host starts: so many bytes are taken by the labels that are left out,
each with the point behind it. -/
def rootStart (host : List Char) : Nat :=
  let labels := splitOn '.' host
  let kept := if labels[labels.length - 2]?.any (labelSize · < shortLabel) then 3 else 2
  if labels.length ≤ 2 then 0
  else (labels.take (labels.length - kept)).foldr (labelSize · + 1 + ·) 0

/-- Three labels or more end with a third, a second and a last one. -/
theorem exists_eq_append_three {labels : List (List Char)} (many : 3 ≤ labels.length) :
    ∃ others third second last, labels = others ++ [third, second, last] := by
  have whole := List.take_append_drop (labels.length - 3) labels
  have three : (labels.drop (labels.length - 3)).length = 3 := by
    rw [List.length_drop]
    omega
  obtain ⟨third, second, last, ending⟩ := List.length_eq_three.1 three
  rw [ending] at whole
  exact ⟨_, third, second, last, whole.symm⟩

/-- Two labels or fewer all belong to the root domain. -/
theorem rootLabels_of_few {labels : List (List Char)} (few : labels.length < 3) :
    rootLabels labels = labels := by
  unfold rootLabels
  split
  · simp only [List.length_cons] at few
    omega
  · rfl

/-- The labels of a root domain all belong to its root domain. -/
theorem rootLabels_rootLabels (labels : List (List Char)) :
    rootLabels (rootLabels labels) = rootLabels labels := by
  match labels with
  | [] | [_] | [_, _] => rfl
  | last :: second :: third :: others =>
    by_cases short : labelSize second < shortLabel
    · simp [rootLabels, short]
    · simp [rootLabels, short]

/-- Labels in front of three, or of two the first of which is long, do not belong to the root domain. -/
theorem rootLabels_reverse_append (front : List (List Char)) {labels : List (List Char)}
    (settled : 3 ≤ labels.length ∨
      ∃ first last, labels = [first, last] ∧ shortLabel ≤ labelSize first) :
    rootLabels (front ++ labels).reverse = rootLabels labels.reverse := by
  rcases settled with many | ⟨first, last, rfl, long⟩
  · obtain ⟨others, third, second, last, rfl⟩ := exists_eq_append_three many
    simp [rootLabels]
  · have notShort : ¬labelSize first < shortLabel := by omega
    cases above : front.reverse with
    | nil => simp [above]
    | cons third others => simp [above, rootLabels, notShort]

/-- The labels of a root domain. -/
theorem splitOn_rootDomain (host : List Char) :
    splitOn '.' (rootDomain host) = (rootLabels (splitOn '.' host).reverse).reverse := by
  have some : (splitOn '.' host).reverse ≠ [] := by
    rw [Ne, List.reverse_eq_nil_iff]
    exact Text.splitOn_ne_nil '.' host
  refine Text.splitOn_joinWith ?_ fun label found => ?_
  · rw [Ne, List.reverse_eq_nil_iff]
    exact rootLabels_ne_nil some
  · have kept : rootLabels (splitOn '.' host).reverse <+: (splitOn '.' host).reverse :=
      rootLabels_prefix _
    have inside := kept.subset (List.mem_reverse.1 found)
    exact Text.not_mem_of_mem_splitOn (List.mem_reverse.1 inside)

/-- A host of two labels or fewer is its own root domain. -/
theorem rootDomain_of_few {host : List Char} (few : (splitOn '.' host).length < 3) :
    rootDomain host = host := by
  have all : rootLabels (splitOn '.' host).reverse = (splitOn '.' host).reverse :=
    rootLabels_of_few (by rwa [List.length_reverse])
  rw [rootDomain, all, List.reverse_reverse, Text.joinWith_splitOn]

/-- A root domain has three labels if the second of them is short, and otherwise two. -/
theorem rootDomain_of_labels {host third second last : List Char} {others : List (List Char)}
    (labels : splitOn '.' host = others ++ [third, second, last]) :
    rootDomain host =
      if labelSize second < shortLabel then joinWith '.' [third, second, last]
      else joinWith '.' [second, last] := by
  have reversed : (splitOn '.' host).reverse = last :: second :: third :: others.reverse := by
    rw [labels]
    simp
  rw [rootDomain, reversed, rootLabels]
  split <;> rfl

/-- A root domain is its own root domain. -/
theorem rootDomain_rootDomain (host : List Char) : rootDomain (rootDomain host) = rootDomain host := by
  rw [rootDomain, splitOn_rootDomain, List.reverse_reverse, rootLabels_rootLabels, ← rootDomain]

/-- A host whose labels settle it has the root domain of every host below it. -/
theorem rootDomain_below (front : List Char) {host : List Char}
    (settled : 3 ≤ (splitOn '.' host).length ∨
      ∃ first last, splitOn '.' host = [first, last] ∧ shortLabel ≤ labelSize first) :
    rootDomain (front ++ '.' :: host) = rootDomain host := by
  rw [rootDomain, Text.splitOn_append_cons, rootLabels_reverse_append _ settled, ← rootDomain]

/-- Labels with a point behind each take the bytes of the labels and one more for each. -/
theorem labelSize_flatMap (labels : List (List Char)) :
    labelSize (labels.flatMap (· ++ ['.'])) = labels.foldr (labelSize · + 1 + ·) 0 := by
  induction labels with
  | nil => rfl
  | cons label rest ih =>
    have own : labelSize (label ++ ['.']) = labelSize label + 1 := by
      rw [labelSize, Text.Utf8.encode_append, List.length_append]
      rfl
    rw [List.flatMap_cons, List.foldr_cons, ← ih, ← own, labelSize, labelSize, labelSize,
      Text.Utf8.encode_append, List.length_append]

/-- The root domain of a host of two labels or fewer starts with the host. -/
theorem rootStart_of_few {host : List Char} (few : (splitOn '.' host).length < 3) :
    rootStart host = 0 :=
  if_pos (Nat.le_of_lt_succ few)

/-- The root domain starts behind the labels that are left out. -/
theorem rootStart_of_labels {host third second last : List Char} {others : List (List Char)}
    (labels : splitOn '.' host = others ++ [third, second, last]) :
    rootStart host =
      labelSize ((if labelSize second < shortLabel then others else others ++ [third]).flatMap
        (· ++ ['.'])) := by
  have count : (splitOn '.' host).length = others.length + 3 := by
    rw [labels, List.length_append]
    rfl
  have middle : (splitOn '.' host)[others.length + 3 - 2]? = some second := by
    rw [labels, List.getElem?_append_right (by omega)]
    simp
  have three : (others ++ [third, second, last]).take others.length = others := List.take_left
  have two : (others ++ [third, second, last]).take (others.length + 1) = others ++ [third] := by
    have more : (others ++ [third]).length = others.length + 1 := List.length_append
    rw [← more, List.append_cons others third [second, last]]
    exact List.take_left
  rw [labelSize_flatMap, rootStart, count, middle, if_neg (by omega), labels, Option.any_some]
  by_cases short : labelSize second < shortLabel
  · rw [decide_eq_true short, if_pos rfl, if_pos short, Nat.add_sub_cancel, three]
  · rw [decide_eq_false short, if_neg Bool.false_ne_true, if_neg short, Nat.add_sub_assoc (by omega),
      two]

/-- In front of the root domain stand whole characters, which take the bytes in front of its start. -/
theorem exists_front_rootDomain (host : List Char) :
    ∃ front, host = front ++ rootDomain host ∧ labelSize front = rootStart host := by
  by_cases few : (splitOn '.' host).length < 3
  · exact ⟨[], (rootDomain_of_few few).symm, (rootStart_of_few few).symm⟩
  · obtain ⟨others, third, second, last, labels⟩ := exists_eq_append_three (Nat.not_lt.1 few)
    refine ⟨_, ?_, (rootStart_of_labels labels).symm⟩
    have whole := Text.joinWith_splitOn '.' host
    rw [labels] at whole
    rw [rootDomain_of_labels labels, ← whole]
    split
    · exact Text.joinWith_append_flatMap '.' others (List.cons_ne_nil _ _)
    · rw [← Text.joinWith_append_flatMap '.' _ (List.cons_ne_nil _ _), List.append_assoc]
      rfl

/-- The root domain of a host. It starts at a byte that is no farther than the end of the host, and with
whole characters in front. A host of fewer than three labels is its own root domain; of other
hosts it has the last three labels if the second of them takes less than four bytes, and otherwise
the last two. The host belongs to it, and it is its own root domain. The hosts below a host have
the same root domain if the host has three labels, or two the first of which takes four bytes. -/
theorem rootDomain_by_labels (host : List Char) :
    rootStart host ≤ (encode host).length ∧
      (∃ front, host = front ++ rootDomain host ∧ (encode front).length = rootStart host) ∧
      ((splitOn '.' host).length < 3 → rootDomain host = host) ∧
      (∀ others third second last, splitOn '.' host = others ++ [third, second, last] →
        rootDomain host =
          if (encode second).length < 4 then joinWith '.' [third, second, last]
          else joinWith '.' [second, last]) ∧
      (rootDomain host = host ∨ ∃ front, host = front ++ '.' :: rootDomain host) ∧
      rootDomain (rootDomain host) = rootDomain host ∧
      ∀ front, (3 ≤ (splitOn '.' host).length ∨
          ∃ first last, splitOn '.' host = [first, last] ∧ 4 ≤ (encode first).length) →
        rootDomain (front ++ '.' :: host) = rootDomain host := by
  obtain ⟨front, whole, start⟩ := exists_front_rootDomain host
  have bytes : labelSize front + labelSize (rootDomain host) = labelSize host := by
    have both := congrArg labelSize whole
    rw [labelSize, labelSize, Text.Utf8.encode_append, List.length_append] at both
    exact both.symm
  have within : rootStart host ≤ labelSize host := by omega
  have belongs : rootDomain host = host ∨ ∃ front, host = front ++ '.' :: rootDomain host := by
    rcases belongsTo_rootDomain host with same | ⟨above, below⟩
    · exact .inl same.symm
    · exact .inr ⟨above, below.symm⟩
  exact ⟨within, ⟨front, whole, start⟩, rootDomain_of_few, fun _ _ _ _ => rootDomain_of_labels, belongs,
    rootDomain_rootDomain host, fun above settled => rootDomain_below above settled⟩

/-- A host below one whose labels settle it, where the bytes of a label are more than its letters. -/
theorem rootDomain_below_of_letters :
    splitOn '.' "äöü.com".toList = ["äöü".toList, "com".toList] ∧
      rootDomain ("..x".toList ++ '.' :: "äöü.com".toList) = rootDomain "äöü.com".toList := by
  have labels : splitOn '.' "äöü.com".toList = ["äöü".toList, "com".toList] := by decide
  obtain ⟨-, -, -, -, -, -, below⟩ := rootDomain_by_labels "äöü.com".toList
  exact ⟨labels, below _ (.inr ⟨_, _, labels, by decide⟩)⟩

end Detour
