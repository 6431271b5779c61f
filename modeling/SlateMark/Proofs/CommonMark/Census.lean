import Mathlib.Algebra.GroupWithZero.Nat
import Mathlib.Data.List.Basic
import Mathlib.Data.List.Induction
import SlateMark.CommonMark.Walk
import SlateMark.Proofs.CommonMark.Tree

/-!
What a census tells. A census that is continued through a tree counts the tags of its nodes one
after the other, in pre-order, and so it ends as the tally of these tags: each tag that occurs is
there once, at the place of its first occurrence, with the number of its occurrences. One census may
go through several trees in turn.
-/
namespace SlateMark.CommonMark

/-- A tag at the end is kept only if it did not occur before. -/
theorem eraseDups_concat (tags : List Tag) (tag : Tag) :
    (tags ++ [tag]).eraseDups = if tag ∈ tags then tags.eraseDups else tags.eraseDups ++ [tag] := by
  rw [List.eraseDups_append]
  by_cases h : tag ∈ tags
  · simp [List.removeAll, h]
  · simp [List.removeAll, h, List.eraseDups_cons]

theorem nodup_eraseDups (tags : List Tag) : tags.eraseDups.Nodup := by
  induction tags using List.reverseRecOn with
  | nil => simp
  | append_singleton front tag ih =>
    rw [eraseDups_concat]
    split
    case isTrue => exact ih
    case isFalse h =>
      rw [List.nodup_append]
      refine ⟨ih, by simp, ?_⟩
      rintro other hother _ hlast rfl
      obtain rfl := List.mem_singleton.mp hlast
      exact h (List.mem_eraseDups.mp hother)

/-- A tag that is kept stands before those that occur first behind its first occurrence. -/
theorem pairwise_idxOf_eraseDups (tags : List Tag) :
    tags.eraseDups.Pairwise fun tag later => tags.idxOf tag < tags.idxOf later := by
  induction tags using List.reverseRecOn with
  | nil => simp
  | append_singleton front tag ih =>
    have hfront : ∀ other ∈ front, (front ++ [tag]).idxOf other = front.idxOf other :=
      fun other hother => List.idxOf_append_of_mem hother
    have hkept : front.eraseDups.Pairwise fun other later =>
        (front ++ [tag]).idxOf other < (front ++ [tag]).idxOf later := by
      apply ih.imp_of_mem
      intro other later hother hlater hlt
      rw [hfront other (List.mem_eraseDups.mp hother), hfront later (List.mem_eraseDups.mp hlater)]
      exact hlt
    rw [eraseDups_concat]
    split
    case isTrue => exact hkept
    case isFalse hnew =>
      have hlast : (front ++ [tag]).idxOf tag = front.length := by
        rw [List.idxOf_append_of_notMem hnew, List.idxOf_cons_self, Nat.add_zero]
      rw [List.pairwise_append]
      refine ⟨hkept, List.pairwise_singleton _ _, ?_⟩
      intro other hother later hlater
      obtain rfl := List.mem_singleton.mp hlater
      have hmem := List.mem_eraseDups.mp hother
      rw [hfront other hmem, hlast]
      exact List.idxOf_lt_length_of_mem hmem

namespace Census

/-- The tags that occur, in the order of their first occurrences, with how often they occur. -/
def tally (tags : List Tag) : Census := tags.eraseDups.map fun tag => (tag, tags.count tag)

theorem add_map_of_notMem {tag : Tag} {tags : List Tag} (h : tag ∉ tags) (count : Tag → Nat) :
    Census.add tag (tags.map fun other => (other, count other)) =
      tags.map (fun other => (other, count other)) ++ [(tag, 1)] := by
  induction tags with
  | nil => rfl
  | cons other rest ih =>
    rw [List.mem_cons, not_or] at h
    rw [List.map_cons, add, if_neg (Ne.symm h.1), ih h.2]
    rfl

theorem add_map_of_mem {tag : Tag} {tags : List Tag} (h : tag ∈ tags) (hnodup : tags.Nodup)
    (count : Tag → Nat) :
    Census.add tag (tags.map fun other => (other, count other)) =
      tags.map fun other => (other, count other + if other = tag then 1 else 0) := by
  induction tags with
  | nil => simp at h
  | cons other rest ih =>
    obtain ⟨hother, hrest⟩ := List.nodup_cons.mp hnodup
    rw [List.map_cons, List.map_cons, add]
    by_cases heq : other = tag
    · subst heq
      -- It does not occur again, and so the counts behind it stay.
      have hsame : ∀ later ∈ rest,
          (later, count later) = (later, count later + if later = other then 1 else 0) := by
        intro later hlater
        have hne : later ≠ other := fun h => hother (h ▸ hlater)
        rw [if_neg hne, Nat.add_zero]
      rw [if_pos rfl, if_pos rfl, List.map_congr_left hsame]
    · have hmem : tag ∈ rest := List.mem_of_ne_of_mem (Ne.symm heq) h
      rw [if_neg heq, if_neg heq, ih hmem hrest, Nat.add_zero]

/-- Adding a tag to a tally tallies one tag more. -/
theorem add_tally (tags : List Tag) (tag : Tag) :
    (tally tags).add tag = tally (tags ++ [tag]) := by
  have hcount : ∀ other, (tags ++ [tag]).count other =
      tags.count other + if other = tag then 1 else 0 := by
    intro other
    rw [List.count_append, List.count_singleton]
    simp only [beq_iff_eq, @eq_comm Tag tag]
  rw [tally, tally, eraseDups_concat]
  by_cases h : tag ∈ tags
  · rw [if_pos h, add_map_of_mem (List.mem_eraseDups.mpr h) (nodup_eraseDups tags)]
    simp only [hcount]
  · have hnew : tag ∉ tags.eraseDups := mt List.mem_eraseDups.mp h
    have hsame : ∀ other ∈ tags.eraseDups,
        (other, tags.count other) = (other, (tags ++ [tag]).count other) := by
      intro other hother
      have hne : other ≠ tag := fun heq => hnew (heq ▸ hother)
      rw [hcount, if_neg hne, Nat.add_zero]
    rw [if_neg h, add_map_of_notMem hnew, List.map_append, List.map_congr_left hsame]
    simp [hcount, List.count_eq_zero_of_not_mem h]

theorem foldl_add_tally (front tags : List Tag) :
    tags.foldl (fun census tag => census.add tag) (tally front) = tally (front ++ tags) := by
  induction tags generalizing front with
  | nil => rw [List.foldl_nil, List.append_nil]
  | cons tag rest ih => rw [List.foldl_cons, add_tally, ih, List.append_assoc, List.singleton_append]

theorem keys_tally (tags : List Tag) : (tally tags).map Prod.fst = tags.eraseDups := by
  rw [tally, List.map_map]
  exact List.map_id _

theorem nodup_tally (tags : List Tag) : ((tally tags).map Prod.fst).Nodup := by
  rw [keys_tally]
  exact nodup_eraseDups tags

theorem count_add (census : Census) (tag other : Tag) :
    (census.add tag).count other = census.count other + if other = tag then 1 else 0 := by
  induction census with
  | nil =>
    by_cases h : other = tag
    · simp [add, count, h]
    · simp [add, count, h, Ne.symm h]
  | cons entry rest ih =>
    obtain ⟨first, n⟩ := entry
    have hcons : ∀ (m : ℕ) (census : Census),
        count ((first, m) :: census) other = if first = other then m else census.count other := by
      intro m census
      by_cases h : first = other
      · simp [count, h]
      · simp [count, h]
    rw [add]
    by_cases hfirst : first = tag
    · rw [if_pos hfirst, hcons, hcons, hfirst]
      by_cases h : tag = other
      · simp [h]
      · simp [h, Ne.symm h]
    · rw [if_neg hfirst, hcons, hcons, ih]
      by_cases h : first = other
      · have hne : other ≠ tag := h ▸ hfirst
        simp [h, hne]
      · simp [h]

theorem sum_add (census : Census) (tag : Tag) :
    ((census.add tag).map Prod.snd).sum = (census.map Prod.snd).sum + 1 := by
  induction census with
  | nil => rfl
  | cons entry rest ih =>
    obtain ⟨first, n⟩ := entry
    rw [add]
    split
    · simp only [List.map_cons, List.sum_cons]
      omega
    · simp only [List.map_cons, List.sum_cons, ih]
      omega

theorem count_tally (tags : List Tag) (tag : Tag) : (tally tags).count tag = tags.count tag := by
  induction tags using List.reverseRecOn with
  | nil => rfl
  | append_singleton front last ih =>
    rw [← add_tally, count_add, ih, List.count_append, List.count_singleton]
    simp only [beq_iff_eq, @eq_comm Tag tag]

theorem sum_tally (tags : List Tag) : ((tally tags).map Prod.snd).sum = tags.length := by
  induction tags using List.reverseRecOn with
  | nil => rfl
  | append_singleton front last ih =>
    rw [← add_tally, sum_add, ih, List.length_append, List.length_singleton]

/-- A tally has the tags that occur and no others. -/
theorem mem_tally_iff {tags : List Tag} {tag : Tag} {count : Nat} :
    (tag, count) ∈ tally tags ↔ count = tags.count tag ∧ 0 < count := by
  rw [tally, List.mem_map]
  constructor
  · rintro ⟨other, hother, heq⟩
    obtain ⟨rfl, rfl⟩ := Prod.mk.inj heq
    exact ⟨rfl, List.count_pos_iff.mpr (List.mem_eraseDups.mp hother)⟩
  · rintro ⟨rfl, hpos⟩
    exact ⟨tag, List.mem_eraseDups.mpr (List.count_pos_iff.mp hpos), rfl⟩

end Census

namespace Node

theorem censusFrom_eq (census : Census) (n : Node) :
    n.censusFrom census = censusAllFrom (census.add n.tag) n.children := by
  cases n with
  | blockQuote nodes? => cases nodes? <;> rfl
  | _ => rfl

theorem censusAllFrom_eq_of_forall {nodes : List Node}
    (h : ∀ n ∈ nodes, ∀ census : Census, n.censusFrom census =
      (n.preorder.map tag).foldl (fun census tag => census.add tag) census) (census : Census) :
    censusAllFrom census nodes =
      ((preorderAll nodes).map tag).foldl (fun census tag => census.add tag) census := by
  induction nodes generalizing census with
  | nil => rfl
  | cons n rest ih =>
    obtain ⟨hn, hrest⟩ := List.forall_mem_cons.mp h
    rw [censusAllFrom, hn, ih hrest, preorderAll, List.map_append, List.foldl_append]

/-- A census is continued with the tags of the tree in pre-order. -/
theorem censusFrom_eq_foldl (n : Node) : ∀ census : Census, n.censusFrom census =
    (n.preorder.map tag).foldl (fun census tag => census.add tag) census := by
  induction n using induct_children with
  | step n ih =>
    intro census
    rw [censusFrom_eq, censusAllFrom_eq_of_forall ih, preorder_eq, List.map_cons, List.foldl_cons]

theorem census_eq_tally (n : Node) : n.census = Census.tally (n.preorder.map tag) := by
  rw [census, censusFrom_eq_foldl]
  exact Census.foldl_add_tally [] (n.preorder.map tag)

theorem preorderAll_eq_flatMap (nodes : List Node) :
    preorderAll nodes = nodes.flatMap preorder := by
  induction nodes with
  | nil => rfl
  | cons n rest ih => rw [preorderAll, ih, List.flatMap_cons]

theorem censusAllFrom_eq_tally (trees : List Node) :
    censusAllFrom [] trees = Census.tally ((trees.flatMap preorder).map tag) := by
  rw [censusAllFrom_eq_of_forall fun n _ => censusFrom_eq_foldl n, preorderAll_eq_flatMap]
  exact Census.foldl_add_tally [] _

/-- How often a tag occurs among these nodes and below them. -/
def countAll (tag : Tag) (nodes : List Node) : Nat := ((preorderAll nodes).map Node.tag).count tag

theorem countAll_cons (tag : Tag) (n : Node) (rest : List Node) :
    countAll tag (n :: rest) = countAll tag [n] + countAll tag rest := by
  simp [countAll, preorderAll]

theorem countAll_singleton (tag : Tag) (n : Node) :
    countAll tag [n] = [n.tag].count tag + countAll tag n.children := by
  rw [countAll, countAll, preorderAll, preorder_eq, preorderAll, List.append_nil, List.map_cons,
    ← List.count_append, List.singleton_append]

theorem nodup_census (n : Node) : (n.census.map Prod.fst).Nodup := by
  rw [census_eq_tally]
  exact Census.nodup_tally _

theorem mem_census_iff {n : Node} {tag : Tag} {count : Nat} :
    (tag, count) ∈ n.census ↔ count = countAll tag [n] ∧ 0 < count := by
  rw [census_eq_tally, Census.mem_tally_iff, countAll, preorderAll, preorderAll, List.append_nil]

/-- A census through several trees counts each of their nodes once. It has the tags that occur and
no others, in the order in which the nodes of the trees, one after the other, first show them. -/
theorem censusAllFrom_countsOnce (trees : List Node) :
    (∀ tag, (censusAllFrom [] trees).count tag =
        (trees.flatMap preorder).countP fun n => n.tag = tag) ∧
      (∀ tag, tag ∈ (censusAllFrom [] trees).map Prod.fst ↔
        ∃ n ∈ trees.flatMap preorder, n.tag = tag) ∧
      ((censusAllFrom [] trees).map Prod.snd).sum = (trees.flatMap preorder).length ∧
      ((censusAllFrom [] trees).map Prod.fst).Pairwise fun tag later =>
        ((trees.flatMap preorder).map Node.tag).idxOf tag <
          ((trees.flatMap preorder).map Node.tag).idxOf later := by
  rw [censusAllFrom_eq_tally, Census.keys_tally, Census.sum_tally, List.length_map]
  refine ⟨fun tag => ?_, fun tag => ?_, rfl, pairwise_idxOf_eraseDups _⟩
  · rw [Census.count_tally, List.count, List.countP_map]
    rfl
  · rw [List.mem_eraseDups, List.mem_map]

end Node

end SlateMark.CommonMark
