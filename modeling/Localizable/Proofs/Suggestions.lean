import Localizable.Proofs.EditDistances
import Localizable.Proofs.Histories

/-!
# The names that are suggested

For a name that is unknown, the names at most one or two edits away from it are
ranked: the closer one first, and of two as close the lesser one. There is one such
ranking, whatever the order in which the names are offered, and the first three of
it are suggested (`suggestions_best`). A name that is registered in another role is
no edit away from itself, so it comes first.
-/

namespace Localizable

/-- The number of edits that lead from a target to a name. -/
def distanceTo (target name : String) : Nat := editDistance target.toList name.toList

/-- Of two names the closer one comes first, and of two as close the lesser one. -/
def RanksBefore (target left right : String) : Prop :=
  distanceTo target left < distanceTo target right ∨
    distanceTo target left = distanceTo target right ∧ left ≤ right

/-- The names that are close to a target, each as often as it is available: at most one edit away from a target of up to
three characters, and at most two from a longer one. -/
def nearNames (target : String) (available : List String) : List String :=
  available.filter fun name => distanceTo target name ≤ if target.toList.length ≤ 3 then 1 else 2

/-- All names that are close to a target, in order. -/
structure IsRanking (target : String) (available ranked : List String) : Prop where
  perm : ranked.Perm (nearNames target available)
  ordered : ranked.Pairwise (RanksBefore target)

theorem distanceTo_isLeast (target name : String) :
    IsLeast {count | Edits count target.toList name.toList} (distanceTo target name) :=
  editDistance_isLeast target.toList name.toList

/-- Only the target itself is no edit away. -/
theorem distanceTo_eq_zero_iff {target name : String} : distanceTo target name = 0 ↔ name = target := by
  constructor
  · intro same
    have edits := (distanceTo_isLeast target name).1
    rw [same] at edits
    exact (String.toList_injective edits.eq_of_zero).symm
  · rintro rfl
    exact editDistance_self _

theorem RanksBefore.antisymm {target left right : String} (before : RanksBefore target left right)
    (behind : RanksBefore target right left) : left = right := by
  rcases before with closer | ⟨same, less⟩
  · rcases behind with farther | ⟨same, _⟩ <;> omega
  · rcases behind with farther | ⟨_, more⟩
    · omega
    · exact String.le_antisymm less more

theorem RanksBefore.distance_le {target left right : String} (before : RanksBefore target left right) :
    distanceTo target left ≤ distanceTo target right := by
  rcases before with closer | ⟨same, _⟩ <;> omega

/-- There is one ranking at most, in whatever order the names are available. -/
theorem IsRanking.unique {target : String} {available shuffled ranked other : List String}
    (ranking : IsRanking target available ranked) (again : IsRanking target shuffled other)
    (same : shuffled.Perm available) : other = ranked := by
  have near : (nearNames target shuffled).Perm (nearNames target available) := same.filter _
  exact List.Perm.eq_of_pairwise (fun _ _ _ _ => RanksBefore.antisymm) again.ordered ranking.ordered
    (again.perm.trans (near.trans ranking.perm.symm))

/-- A target that is available is ranked first. -/
theorem IsRanking.head? {target : String} {available ranked : List String}
    (ranking : IsRanking target available ranked) (offered : target ∈ available) : ranked.head? = some target := by
  have itself : distanceTo target target = 0 := distanceTo_eq_zero_iff.2 rfl
  have near : target ∈ nearNames target available := by simp [nearNames, offered, itself]
  have member := ranking.perm.mem_iff.2 near
  cases ranked with
  | nil => cases member
  | cons first rest =>
    rcases List.mem_cons.1 member with rfl | later
    · rfl
    · have before := ((List.pairwise_cons.1 ranking.ordered).1 target later).distance_le
      rw [itself] at before
      rw [distanceTo_eq_zero_iff.1 (Nat.le_zero.1 before), List.head?_cons]

/-! ## The ranking that is computed -/

theorem comesBefore_iff {left right : Nat × String} :
    comesBefore left right = true ↔ left.1 < right.1 ∨ left.1 = right.1 ∧ left.2 ≤ right.2 := by
  simp [comesBefore]

theorem comesBefore_trans {left middle right : Nat × String} (first : comesBefore left middle = true)
    (second : comesBefore middle right = true) : comesBefore left right = true := by
  rw [comesBefore_iff] at first second ⊢
  rcases first with closer | ⟨same, less⟩
  · exact .inl (by omega)
  · rcases second with closer | ⟨alike, more⟩
    · exact .inl (by omega)
    · exact .inr ⟨by omega, String.le_trans less more⟩

theorem comesBefore_total (left right : Nat × String) : (comesBefore left right || comesBefore right left) = true := by
  rw [Bool.or_eq_true, comesBefore_iff, comesBefore_iff]
  rcases Nat.lt_trichotomy left.1 right.1 with closer | same | farther
  · exact .inl (.inl closer)
  · rcases String.le_total left.2 right.2 with less | more
    · exact .inl (.inr ⟨same, less⟩)
    · exact .inr (.inr ⟨same.symm, more⟩)
  · exact .inr (.inl farther)

theorem mem_closeNames {target : String} {available : List String} {scored : Nat × String}
    (member : scored ∈ closeNames target available) : scored.1 = distanceTo target scored.2 := by
  rw [closeNames, List.mem_mergeSort, List.mem_filter, List.mem_map] at member
  obtain ⟨⟨name, _, rfl⟩, _⟩ := member
  rfl

/-- The close names with their distances are the ranking. -/
theorem isRanking_closeNames (target : String) (available : List String) :
    IsRanking target available ((closeNames target available).map (·.2)) := by
  constructor
  · have near : ((available.map fun name => (editDistance target.toList name.toList, name)).filter fun scored =>
        scored.1 ≤ allowedDistance target).map (·.2) = nearNames target available := by
      rw [List.filter_map, List.map_map, nearNames]
      exact List.map_id'' (fun _ => rfl) _
    rw [← near]
    exact (List.mergeSort_perm _ _).map _
  · have sorted : (closeNames target available).Pairwise fun left right => comesBefore left right = true := by
      unfold closeNames
      apply List.pairwise_mergeSort
      · intro left middle right
        exact comesBefore_trans
      · exact comesBefore_total
    rw [List.pairwise_map]
    refine List.Pairwise.imp_of_mem ?_ sorted
    intro left right first second before
    rw [comesBefore_iff, mem_closeNames first, mem_closeNames second] at before
    exact before

theorem suggestions_eq_take (target : String) (available : List String) :
    suggestions target available = ((closeNames target available).map (·.2)).take 3 := List.map_take

/-- The closest three names are suggested, the closer one first and of two as close the lesser one: no matter in which
order the names are offered, with every other close name at least as far away, and the target itself in front if it is
offered. So a name that has a function in another role only is suggested first where it is looked up. -/
theorem suggestions_best (target : String) (available : List String) :
    (∀ name, IsLeast {count | Edits count target.toList name.toList} (distanceTo target name)) ∧
      (∃ ranked, IsRanking target available ranked ∧ suggestions target available = ranked.take 3) ∧
      (∀ shuffled, shuffled.Perm available → suggestions target shuffled = suggestions target available) ∧
      (∀ omitted, (suggestions target available ++ omitted).Perm (nearNames target available) →
        ∀ kept ∈ suggestions target available, ∀ name ∈ omitted, distanceTo target kept ≤ distanceTo target name) ∧
      (target ∈ available → (suggestions target available).head? = some target) ∧
      ∀ (registry : Registry) (role other : Role) (function : Function),
        registry.find? role target = none → registry.find? other target = some function →
          ∃ others, registry.lookup role target = .error (.unknownFunction target (target :: others)) := by
  have first : ∀ names, target ∈ names → (suggestions target names).head? = some target := by
    intro names offered
    have head := (isRanking_closeNames target names).head? offered
    obtain ⟨rest, ranked⟩ := List.head?_eq_some_iff.1 head
    rw [suggestions_eq_take, ranked]
    rfl
  refine ⟨distanceTo_isLeast target, ⟨_, isRanking_closeNames target available, suggestions_eq_take target available⟩,
    ?_, ?_, first available, ?_⟩
  · intro shuffled same
    rw [suggestions_eq_take, suggestions_eq_take,
      (isRanking_closeNames target available).unique (isRanking_closeNames target shuffled) same]
  · intro omitted all kept suggested name left
    have ranking := isRanking_closeNames target available
    rw [suggestions_eq_take] at all suggested
    have parted := List.take_append_drop 3 ((closeNames target available).map (·.2))
    have ordered := ranking.ordered
    have behind := all.trans ranking.perm.symm
    rw [← parted] at ordered
    nth_rewrite 2 [← parted] at behind
    have dropped := ((List.perm_append_left_iff _).1 behind).mem_iff.1 left
    exact ((List.pairwise_append.1 ordered).2.2 kept suggested name dropped).distance_le
  · intro registry role other function missing found
    have offered : target ∈ registry.names := Registry.mem_names.2 ⟨other, by rw [found]; exact Option.some_ne_none _⟩
    obtain ⟨others, same⟩ := List.head?_eq_some_iff.1 (first registry.names offered)
    refine ⟨others, ?_⟩
    rw [Registry.lookup, missing, same]

/-- The target comes first as often as it is offered, and of names that are as close the lesser one. -/
example : suggestions "cat" ["cot", "dog", "cat", "bat", "cat"] = ["cat", "cat", "bat"] := by cbv

end Localizable
