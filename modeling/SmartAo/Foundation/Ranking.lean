import Mathlib.Data.List.Sort

namespace SmartAo.Foundation

open List

variable {β κ : Type*} [LinearOrder κ]

/-- The items in the order of a key; items of one key keep theirs. -/
def rankBy (key : β → κ) (items : List β) : List β := items.insertionSort fun first second => key first ≤ key second

/-- `items[:stop]`; a negative stop counts from the end. -/
def sliceTo (stop : Int) (items : List β) : List β :=
  items.take (if 0 ≤ stop then stop.toNat else items.length - (-stop).toNat)

example : sliceTo 2 [1, 2, 3] = [1, 2] ∧ sliceTo (-1) [1, 2, 3] = [1, 2] ∧ sliceTo (-9) [1, 2, 3] = [] := by decide

theorem rankBy_perm (key : β → κ) (items : List β) : rankBy key items ~ items :=
  perm_insertionSort _ items

theorem rankBy_sorted (key : β → κ) (items : List β) :
    (rankBy key items).Pairwise fun first second => key first ≤ key second := by
  have total : Std.Total fun first second => key first ≤ key second := ⟨fun first second => le_total _ _⟩
  have trans : IsTrans β fun first second => key first ≤ key second := ⟨fun _ _ _ => le_trans⟩
  exact pairwise_insertionSort _ items

theorem sliceTo_map {γ : Type*} (stop : Int) (change : β → γ) (items : List β) :
    (sliceTo stop items).map change = sliceTo stop (items.map change) := by
  rw [sliceTo, sliceTo, map_take, length_map]

/-- A stop that cuts nothing off a list cuts nothing off one of its length. -/
theorem sliceTo_of_length {γ : Type*} {stop : Int} {items : List β} {others : List γ}
    (whole : (sliceTo stop items).length = items.length) (same : others.length = items.length) :
    sliceTo stop others = others := by
  rw [sliceTo, length_take] at whole
  rw [sliceTo, same]
  exact take_of_length_le (by omega)

variable {first second : List β} {rank : β → κ}

/-- Two lists of the same items in the order of a rank have the same ranks. -/
theorem ranks_eq (same : first ~ second) (ordered : first.Pairwise fun one other => rank one ≤ rank other)
    (alike : second.Pairwise fun one other => rank one ≤ rank other) : first.map rank = second.map rank := by
  have sorted : (first.map rank).Pairwise (· ≤ ·) := pairwise_map.mpr ordered
  have likewise : (second.map rank).Pairwise (· ≤ ·) := pairwise_map.mpr alike
  exact Perm.eq_of_pairwise (fun _ _ _ _ => le_antisymm) sorted likewise (same.map rank)

/-- Where no two of the items have one rank, they are one list. -/
theorem eq_of_ranks_nodup (same : first ~ second) (ordered : first.Pairwise fun one other => rank one ≤ rank other)
    (alike : second.Pairwise fun one other => rank one ≤ rank other) (apart : (first.map rank).Nodup) :
    first = second := by
  refine Perm.eq_of_pairwise ?_ ordered alike same
  intro one other member found below above
  exact inj_on_of_nodup_map apart member (same.mem_iff.mpr found) (le_antisymm below above)

/-- Ranking forgets the order of the items whose ranks tell them apart. -/
theorem rankBy_eq_of_perm (same : first ~ second)
    (apart : ∀ one ∈ first, ∀ other ∈ first, rank one = rank other → one = other) :
    rankBy rank first = rankBy rank second := by
  have permuted : rankBy rank first ~ rankBy rank second :=
    (rankBy_perm rank first).trans (same.trans (rankBy_perm rank second).symm)
  refine Perm.eq_of_pairwise ?_ (rankBy_sorted rank first) (rankBy_sorted rank second) permuted
  intro one other member found below above
  have here := (rankBy_perm rank first).mem_iff.mp member
  have there := same.mem_iff.mpr ((rankBy_perm rank second).mem_iff.mp found)
  exact apart one here other there (le_antisymm below above)

/-- Two lists without repetition are sorted into one exactly when they have the same items. -/
theorem rankBy_id_eq_iff {one other : List κ} (apart : one.Nodup) (distinct : other.Nodup) :
    rankBy id one = rankBy id other ↔ ∀ item, item ∈ one ↔ item ∈ other := by
  constructor
  · intro same item
    rw [← (rankBy_perm id one).mem_iff, same, (rankBy_perm id other).mem_iff]
  · intro alike
    have permuted : one ~ other := (perm_ext_iff_of_nodup apart distinct).mpr alike
    exact rankBy_eq_of_perm permuted fun _ _ _ _ equal => equal

end SmartAo.Foundation

namespace SmartAo.Foundation.Keyset

variable {ρ κ : Type*} [LinearOrder κ] {key : ρ → κ} {rows front back : List ρ} {last : ρ}

/-- The rows whose keys come after a given one, in the order of their keys, at most so many of them. -/
def fetch (key : ρ → κ) (rows : List ρ) (after : Option κ) (count : Nat) : List ρ :=
  (rankBy key (rows.filter fun row => after.all fun last => decide (last < key row))).take count

/-- Rows of distinct keys are selected and ranked in either order. -/
theorem rankBy_filter (distinct : (rows.map key).Nodup) (selected : ρ → Bool) :
    rankBy key (rows.filter selected) = (rankBy key rows).filter selected := by
  have permuted : (rankBy key (rows.filter selected)).Perm ((rankBy key rows).filter selected) :=
    (rankBy_perm key _).trans ((rankBy_perm key rows).filter selected).symm
  have apart : ((rankBy key (rows.filter selected)).map key).Nodup :=
    ((rankBy_perm key _).map key).nodup_iff.mpr (distinct.sublist (List.filter_sublist.map key))
  exact eq_of_ranks_nodup permuted (rankBy_sorted key _) ((rankBy_sorted key rows).filter _) apart

theorem rankBy_strict (distinct : (rows.map key).Nodup) :
    (rankBy key rows).Pairwise fun one other => key one < key other := by
  have apart : ((rankBy key rows).map key).Nodup := ((rankBy_perm key rows).map key).nodup_iff.mpr distinct
  have different : (rankBy key rows).Pairwise fun one other => key one ≠ key other := List.pairwise_map.mp apart
  exact (rankBy_sorted key rows).imp₂ (fun _ _ below other => lt_of_le_of_ne below other) different

theorem fetch_first (count : Nat) : fetch key rows none count = (rankBy key rows).take count := by
  have every : rows.filter (fun row => (none : Option κ).all fun last => decide (last < key row)) = rows :=
    List.filter_eq_self.mpr fun _ _ => rfl
  rw [fetch, every]

/-- After a row come the rows behind it. -/
theorem fetch_after (distinct : (rows.map key).Nodup) (split : rankBy key rows = front ++ last :: back) (count : Nat) :
    fetch key rows (some (key last)) count = back.take count := by
  have strict := rankBy_strict distinct
  rw [split] at strict
  obtain ⟨_, tail, across⟩ := List.pairwise_append.mp strict
  have before : front.filter (fun row => decide (key last < key row)) = [] := by
    refine List.filter_eq_nil_iff.mpr fun row member later => ?_
    exact absurd (across row member last List.mem_cons_self) (not_lt_of_gt (of_decide_eq_true later))
  have behind : back.filter (fun row => decide (key last < key row)) = back :=
    List.filter_eq_self.mpr fun row member => decide_eq_true ((List.pairwise_cons.mp tail).1 row member)
  have here : decide (key last < key last) = false := decide_eq_false (lt_irrefl _)
  simp only [fetch, Option.all_some]
  rw [rankBy_filter distinct, split, List.filter_append, List.filter_cons, here, before, behind]
  rfl

section Follow

variable {γ π : Type*}

/-- The items of the pages from a cursor on, until a page has no next one; the turns bound the pages. -/
def follow (page : Option γ → Option (List π × Option γ)) : Nat → Option γ → Option (List π)
  | 0, _ => none
  | turns + 1, cursor => (page cursor).bind fun (items, next) =>
    match next with
    | none => some items
    | some cursor => (follow page turns (some cursor)).map (items ++ ·)

/-- The page at the front of the rows that are left, and the cursor of its last row when there are more. -/
def pageOf (shown : ρ → π) (cursorOf : ρ → γ) (limit : Nat) (rest : List ρ) : List π × Option γ :=
  ((rest.take limit).map shown, if limit < rest.length then (rest.take limit).getLast?.map cursorOf else none)

variable {page : Option γ → Option (List π × Option γ)} {shown : ρ → π} {cursorOf : ρ → γ} {limit : Nat}
  {ordered rest : List ρ}

/-- Pages that each start behind the row of their cursor show every row once, in order. -/
theorem follow_rest (positive : 0 < limit)
    (behind : ∀ front last back, ordered = front ++ last :: back →
      page (some (cursorOf last)) = some (pageOf shown cursorOf limit back)) {turns : Nat} {cursor : Option γ}
    (among : rest <:+ ordered) (here : page cursor = some (pageOf shown cursorOf limit rest))
    (enough : rest.length < turns) : follow page turns cursor = some (rest.map shown) := by
  induction turns generalizing rest cursor with
  | zero => omega
  | succ turns ih =>
    by_cases more : limit < rest.length
    · have length : (rest.take limit).length = limit := by
        rw [List.length_take]
        omega
      obtain ⟨items, last, taken⟩ := List.eq_nil_or_concat (rest.take limit) |>.resolve_left
        (List.ne_nil_of_length_pos (by omega))
      have split : rest = items ++ last :: rest.drop limit := by
        conv_lhs => rw [← List.take_append_drop limit rest, taken]
        simp
      obtain ⟨front, whole⟩ := among
      have next := behind (front ++ items) last (rest.drop limit) (by rw [← whole, List.append_assoc, ← split])
      have suffix : rest.drop limit <:+ ordered := (List.drop_suffix limit rest).trans ⟨front, whole⟩
      have left := ih suffix next (by rw [List.length_drop]; omega)
      have cursorHere : (rest.take limit).getLast?.map cursorOf = some (cursorOf last) := by
        rw [taken]
        simp
      rw [follow, here, pageOf, if_pos more, cursorHere]
      simp only [Option.bind_some, left, Option.map_some]
      rw [← List.map_append, List.take_append_drop]
    · rw [follow, here, pageOf, if_neg more, List.take_of_length_le (by omega)]
      rfl

end Follow

end SmartAo.Foundation.Keyset
